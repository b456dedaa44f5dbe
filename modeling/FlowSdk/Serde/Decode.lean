/-
  FlowSdk.Serde.Decode — `MqttPacket::from_bytes_with_version`.

  Every decoder checks the packet type, reads the remaining length and answers
  `Continue` when the buffer ends before the frame does. On a whole frame it reads its
  fields with a running offset and must end exactly at the end of the frame.

  `buffer.get(n..).ok_or(e)?` is `Decode.okOr e (sliceFrom buffer n)`; the indexing forms
  `buffer[n]`, `buffer[i..j]` go through `Decode.index` and can panic.
-/
import FlowSdk.Serde.Encode

namespace FlowSdk

open Wire

/-- What a decoder can answer. -/
inductive ParseOk where
  | continue (hint consumed : Nat)
  | packet (p : MqttPacket) (consumed : Nat)
  | topicName (name : String) (consumed : Nat)
deriving DecidableEq, Repr

def validatedPacket (strict : Bool) (p : MqttPacket) (consumed : Nat) : Decode ParseOk := do
  Decode.check (p.validate strict)
  return .packet p consumed

/-! ## The parts all decoders share -/

/-- `if packet_type(buffer)? != kind { return Err(InvalidPacketType) }`. -/
def expectType (kind : ControlPacketType) (buffer : Bytes) : Decode Unit := do
  let pktType ← packetType buffer
  rejectIf (pktType ≠ kind.code) (.err .invalidPacketType)

/-- The low nibble of the first byte, read once the type is known to be there. -/
def flagsOf (buffer : Bytes) : UInt8 := buffer.headD 0 &&& 0x0F

def expectFlags (flags : UInt8) (buffer : Bytes) (message : String) : Decode Unit :=
  rejectIf (flagsOf buffer ≠ flags) (.err (.parseError message))

/-- The remaining length, and the test for a whole frame. The rest of the decoder gets the
remaining length, the offset behind the fixed header and the length of the frame. -/
def withFrame (strict : Bool) (buffer : Bytes) (body : Nat → Nat → Nat → Decode ParseOk) :
    Decode ParseOk := do
  let (size, vbiLen) ← parseRemainingLength strict (buffer.drop 1)
  let offset := 1 + vbiLen
  let totalLen := offset + size
  if totalLen > buffer.length then
    return .continue (totalLen - buffer.length) 0
  else body size offset totalLen

/-- `u16::from_be_bytes([buffer[offset], buffer[offset + 1]])`. -/
def indexU16 (buffer : Bytes) (offset : Nat) : Decode UInt16 := do
  let a ← Decode.index buffer[offset]?
  let b ← Decode.index buffer[offset + 1]?
  return u16FromBeBytes a b

/-- `buffer.get(offset..).ok_or(BufferTooShort)?`. -/
def getFrom (buffer : Bytes) (offset : Nat) : Decode Bytes :=
  Decode.okOr .bufferTooShort (sliceFrom buffer offset)

/-- `buffer.get(offset..stop).ok_or(BufferTooShort)?`. -/
def getRange (buffer : Bytes) (offset stop : Nat) : Decode Bytes :=
  Decode.okOr .bufferTooShort (sliceRange buffer offset stop)

/-- `*buffer.get(offset).ok_or(BufferTooShort)?`. -/
def getByte (buffer : Bytes) (offset : Nat) : Decode UInt8 :=
  Decode.okOr .bufferTooShort buffer[offset]?

/-- `&buffer[offset..]`. -/
def indexFrom (buffer : Bytes) (offset : Nat) : Decode Bytes :=
  Decode.index (sliceFrom buffer offset)

/-- `&buffer[offset..stop]`. -/
def indexRange (buffer : Bytes) (offset stop : Nat) : Decode Bytes :=
  Decode.index (sliceRange buffer offset stop)

def inconsistentOffset (offset totalLen : Nat) : Failure :=
  .err (.internalError s!"Inconsistent offset {offset} != total: {totalLen}")

/-- One hexadecimal digit. -/
def hexDigit (n : Nat) : Char := "0123456789abcdef".toList.getD n '0'

/-- The format specification `:02x`. -/
def hex02 (byte : UInt8) : String :=
  String.ofList [hexDigit (byte.toNat / 16), hexDigit (byte.toNat % 16)]

/-! ## MQTT 5 -/

namespace V5

/-- The field updates of the loop of `Will::from_bytes`. -/
def WillProperties.set (w : WillProperties) : Property → WillProperties
  | .willDelayInterval value => { w with willDelayInterval := some value }
  | .payloadFormatIndicator value => { w with payloadFormatIndicator := some value }
  | .messageExpiryInterval value => { w with messageExpiryInterval := some value }
  | .contentType value => { w with contentType := some value }
  | .responseTopic value => { w with responseTopic := some value }
  | .correlationData value => { w with correlationData := some value }
  | .userProperty key value =>
    { w with userProperties := w.userProperties ++ [.userProperty key value] }
  | _ => w

def WillProperties.empty : WillProperties := ⟨none, none, none, none, none, none, []⟩

def Will.fromBytes (strict : Bool) (buffer : Bytes) (connectFlags : UInt8) :
    Decode (Will × Nat) := do
  let (properties, offset) ← parsePropertiesHdr strict buffer
  onlyIf strict (Decode.check (Validation.properties properties .will))
  let (willTopic, consumed) ← parseUtf8String strict (← indexFrom buffer offset)
  let offset := offset + consumed
  let (willMessage, consumed) ← parseBinaryData (← indexFrom buffer offset)
  let offset := offset + consumed
  return ({ willQos := (connectFlags >>> 3) &&& 0x03
            willRetain := connectFlags &&& 0x20 ≠ 0
            willTopic := willTopic
            willMessage := willMessage
            properties := properties.foldl WillProperties.set .empty }, offset)

/-- The strict checks of the CONNECT flags. -/
def checkConnectFlags (connectFlags : UInt8) : Decode Unit := do
  rejectIf (connectFlags &&& 0x01 ≠ 0) (.err (.parseError "CONNECT packet reserved flag is not 0"))
  let willQos := (connectFlags >>> 3) &&& 0x03
  let willRetain := connectFlags &&& 0x20
  if connectFlags &&& 0x04 = 0 then do
    rejectIf (willQos ≠ 0) (.err (.parseError "Will QoS must be 0 if Will Flag is 0"))
    rejectIf (willRetain ≠ 0) (.err (.parseError "Will Retain must be 0 if Will Flag is 0"))
  else rejectIf (willQos = 3) (.err (.parseError "Will QoS cannot be 3"))

/-- The optional fields of the CONNECT payload, each with the offset behind it. -/
def readWill (strict : Bool) (buffer : Bytes) (connectFlags : UInt8) (offset : Nat) :
    Decode (Option Will × Nat) :=
  if connectFlags &&& 0x04 ≠ 0 then do
    let (will, consumed) ← Will.fromBytes strict (← indexFrom buffer offset) connectFlags
    rejectIf (will.willTopic = "" ∨ will.willMessage = [])
      (.err (.parseError "Will topic or message cannot be empty"))
    return (some will, offset + consumed)
  else .ok (none, offset)

def readUsername (strict : Bool) (buffer : Bytes) (connectFlags : UInt8) (offset : Nat) :
    Decode (Option String × Nat) :=
  if connectFlags &&& 0x80 ≠ 0 then do
    let (username, consumed) ← parseUtf8String strict (← getFrom buffer offset)
    rejectIf (username = "") (.err (.parseError "Username cannot be empty"))
    return (some username, offset + consumed)
  else .ok (none, offset)

def readPassword (buffer : Bytes) (connectFlags : UInt8) (offset : Nat) :
    Decode (Option Bytes × Nat) :=
  if connectFlags &&& 0x40 ≠ 0 then do
    let (password, consumed) ← parseBinaryData (← getFrom buffer offset)
    rejectIf (password = []) (.err (.parseError "Password cannot be empty"))
    return (some password, offset + consumed)
  else .ok (none, offset)

def MqttConnect.fromBytes (strict : Bool) (buffer : Bytes) : Decode ParseOk := do
  expectType .connect buffer
  onlyIf strict (Decode.check (Validation.fixedHeader (buffer.headD 0)))
  withFrame strict buffer fun _ offset totalLen => do
    let (protocolName, consumed) ← parseUtf8String strict (← getFrom buffer offset)
    rejectIf (protocolName ≠ "MQTT") (.err .unSuppProtoVsn)
    let offset := offset + consumed
    let protocolVersion ← getByte buffer offset
    let offset := offset + 1
    let connectFlags ← getByte buffer offset
    let offset := offset + 1
    onlyIf strict (checkConnectFlags connectFlags)
    let (keepAlive, _) ← TwoByteInteger.decode (← getRange buffer offset (offset + 2))
    let offset := offset + 2
    let (properties, consumed) ← parsePropertiesHdr strict (← getFrom buffer offset)
    let offset := offset + consumed
    let (clientId, consumed) ← parseUtf8String strict (← getFrom buffer offset)
    let offset := offset + consumed
    let (will, offset) ← readWill strict buffer connectFlags offset
    let (username, offset) ← readUsername strict buffer connectFlags offset
    let (password, offset) ← readPassword buffer connectFlags offset
    rejectIf (offset ≠ totalLen) (inconsistentOffset offset totalLen)
    validatedPacket strict (.connect5 {
      protocolName, protocolVersion, keepAlive, clientId, will, username, password, properties
      cleanStart := connectFlags &&& 0x02 ≠ 0 }) offset

/-- `parse_connack`. -/
def MqttConnAck.fromBytes (strict : Bool) (buffer : Bytes) : Decode ParseOk := do
  expectType .connack buffer
  onlyIf strict (Decode.check (Validation.fixedHeader (buffer.headD 0)))
  withFrame strict buffer fun _ offset totalLen => do
    let sessionPresentByte ← getByte buffer offset
    rejectIf (strict = true ∧ sessionPresentByte &&& 0xFE ≠ 0) (.err (.parseError
      "CONNACK Connect Acknowledge Flags reserved bits must be 0"))
    let reasonCode ← getByte buffer (offset + 1)
    let offset := offset + 2
    let (properties, consumed) ← parsePropertiesHdr strict (← getFrom buffer offset)
    let offset := offset + consumed
    rejectIf (offset ≠ totalLen) (.err .invalidLength)
    validatedPacket strict (.connAck5 {
      sessionPresent := sessionPresentByte &&& 0x01 = 1
      reasonCode
      properties := if properties = [] then none else some properties }) offset

/-- The packet identifier, which only a PUBLISH above QoS 0 has. -/
def readPacketId (qos : UInt8) (buffer : Bytes) (offset : Nat) : Decode (Option UInt16 × Nat) :=
  if qos > 0 then do
    let (packetId, consumed) ← parsePacketId (← getFrom buffer offset)
    return (some packetId, offset + consumed)
  else .ok (none, offset)

def MqttPublish.fromBytes (strict : Bool) (buffer : Bytes) : Decode ParseOk := do
  let firstByte ← Decode.okOr .bufferTooShort buffer.head?
  expectType .publish buffer
  let dup : Bool := firstByte &&& 0x8 ≠ 0
  let qos := (firstByte &&& 0x06) >>> 1
  rejectIf (strict = true ∧ qos = 3)
    (.err (.parseError "PUBLISH QoS bits must not be set to 11 (invalid QoS 3)"))
  let retain : Bool := firstByte &&& 0x1 ≠ 0
  rejectIf (strict = true ∧ qos = 0 ∧ dup = true)
    (.err (.parseError "PUBLISH DUP flag must be 0 for QoS 0 messages"))
  withFrame strict buffer fun _ offset packetSize => do
    let (topicName, consumed) ← parseUtf8String strict (← getFrom buffer offset)
    let offset := offset + consumed
    rejectIf (strict = true ∧ ('#' ∈ topicName.toList ∨ '+' ∈ topicName.toList))
      (.err (.parseError "PUBLISH Topic Name must not contain wildcard characters (# or +)"))
    let (packetId, offset) ← readPacketId qos buffer offset
    let (properties, consumed) ← parsePropertiesHdr strict (← getFrom buffer offset)
    let offset := offset + consumed
    -- `packet_size - offset`
    if packetSize < offset then Decode.panic .underflow
    else do
      let payloadLen := packetSize - offset
      let payload ← getRange buffer offset (offset + payloadLen)
      let offset := offset + payloadLen
      rejectIf (offset ≠ packetSize) (.err .invalidLength)
      validatedPacket strict
        (.publish5 { topicName, qos, dup, retain, packetId, payload, properties }) offset

/-- The reason code of an acknowledgement, left out when only the identifier is there. -/
def readReasonCode (size : Nat) (buffer : Bytes) (offset : Nat) : Decode (UInt8 × Nat) :=
  if size > 2 then do
    let code ← getByte buffer offset
    return (code, offset + 1)
  else .ok (0x00, offset)

/-- The properties up to the end of the frame, if any bytes are left. -/
def readProperties (strict : Bool) (buffer : Bytes) (offset totalLen : Nat) :
    Decode (Properties × Nat) :=
  if offset < totalLen then do
    parsePropertiesHdr strict (← getRange buffer offset totalLen)
  else .ok ([], 0)

/-- The decoder of the macro `v5_packet_id_ack!`. -/
def PacketIdAck.fromBytes (kind : ControlPacketType) (flags : UInt8) (packetName : String)
    (mk : PacketIdAck → MqttPacket) (strict : Bool) (buffer : Bytes) : Decode ParseOk := do
  expectType kind buffer
  let expected := hex02 flags
  let got := hex02 (flagsOf buffer)
  onlyIf strict (expectFlags flags buffer
    s!"Invalid {packetName} flags: expected 0x{expected}, got 0x{got}")
  withFrame strict buffer fun size offset totalLen => do
    let (packetId, consumed) ← parsePacketId (← getFrom buffer offset)
    let offset := offset + consumed
    let (reasonCode, offset) ← readReasonCode size buffer offset
    let (properties, consumed) ← readProperties strict buffer offset totalLen
    let offset := offset + consumed
    rejectIf (offset ≠ totalLen) (inconsistentOffset offset totalLen)
    validatedPacket strict (mk { packetId, reasonCode, properties }) offset

def TopicSubscription.fromBytes (strict : Bool) (buffer : Bytes) :
    Decode (TopicSubscription × Nat) := do
  let (topicFilter, offset) ← parseUtf8String strict (← indexFrom buffer 0)
  onlyIf strict do
    Decode.check (validateTopicFilter topicFilter)
    Decode.check (validateSharedSubscription topicFilter)
  let options ← getByte buffer offset
  rejectIf (strict = true ∧ options &&& 0xC0 ≠ 0)
    (.err (.parseError "SUBSCRIBE Subscription Options reserved bits must be 0"))
  let subscription : TopicSubscription := {
    topicFilter
    qos := options &&& 0x03
    noLocal := options &&& 0x04 ≠ 0
    retainAsPublished := options &&& 0x08 ≠ 0
    retainHandling := (options >>> 4) &&& 0x03 }
  rejectIf (strict = true ∧ subscription.noLocal = true ∧ isShared topicFilter = true)
    (.err (.parseError "SUBSCRIBE No Local flag must not be set on Shared Subscriptions"))
  onlyIf strict (Decode.check (Validation.subscription subscription))
  return (subscription, offset + 1)

def MqttSubscribe.fromBytes (strict : Bool) (buffer : Bytes) : Decode ParseOk := do
  expectType .subscribe buffer
  onlyIf strict (expectFlags 0x02 buffer "SUBSCRIBE fixed header flags must be 0010")
  withFrame strict buffer fun _ offset totalLen => do
    let (packetId, consumed) ← parsePacketId (← getFrom buffer offset)
    let offset := offset + consumed
    rejectIf (strict = true ∧ packetId = 0) (.err (.parseError "SUBSCRIBE packet_id must be > 0"))
    let (properties, consumed) ← parsePropertiesHdr strict (← getRange buffer offset totalLen)
    let offset := offset + consumed
    let (subscriptions, offset) ← readMany
      (fun offset => do TopicSubscription.fromBytes strict (← indexFrom buffer offset))
      totalLen (totalLen + 1) offset
    rejectIf (strict = true ∧ subscriptions = [])
      (.err (.parseError "SUBSCRIBE payload must contain at least one subscription"))
    rejectIf (offset ≠ totalLen) (inconsistentOffset offset totalLen)
    validatedPacket strict (.subscribe5 { packetId, subscriptions, properties }) offset

/-- The decoder SUBACK and UNSUBACK share: an identifier, properties and reason codes. -/
def subAckFromBytes (kind : ControlPacketType) (name : String)
    (mk : UInt16 → Bytes → Properties → MqttPacket) (strict : Bool) (buffer : Bytes) :
    Decode ParseOk := do
  expectType kind buffer
  onlyIf strict (Decode.check (Validation.fixedHeader (buffer.headD 0)))
  withFrame strict buffer fun _ offset totalLen => do
    let (packetId, consumed) ← parsePacketId (← getFrom buffer offset)
    let offset := offset + consumed
    rejectIf (strict = true ∧ packetId = 0) (.err (.parseError s!"{name} packet_id must be > 0"))
    let (properties, consumed) ← parsePropertiesHdr strict (← getRange buffer offset totalLen)
    let offset := offset + consumed
    let reasonCodes ← getRange buffer offset totalLen
    rejectIf (strict = true ∧ reasonCodes = [])
      (.err (.parseError s!"{name} payload must contain at least one reason code"))
    validatedPacket strict (mk packetId reasonCodes properties) totalLen

def MqttSubAck.fromBytes : Bool → Bytes → Decode ParseOk :=
  subAckFromBytes .suback "SUBACK" fun packetId reasonCodes properties =>
    .subAck5 { packetId, reasonCodes, properties }

def MqttUnsubAck.fromBytes : Bool → Bytes → Decode ParseOk :=
  subAckFromBytes .unsuback "UNSUBACK" fun packetId reasonCodes properties =>
    .unsubAck5 { packetId, reasonCodes, properties }

def MqttUnsubscribe.fromBytes (strict : Bool) (buffer : Bytes) : Decode ParseOk := do
  expectType .unsubscribe buffer
  onlyIf strict (expectFlags 0x02 buffer "UNSUBSCRIBE fixed header flags must be 0010")
  withFrame strict buffer fun _ offset totalLen => do
    let (packetId, consumed) ← parsePacketId (← getFrom buffer offset)
    let offset := offset + consumed
    rejectIf (strict = true ∧ packetId = 0)
      (.err (.parseError "UNSUBSCRIBE packet_id must be > 0"))
    let (properties, consumed) ← parsePropertiesHdr strict (← getRange buffer offset totalLen)
    let offset := offset + consumed
    let (topicFilters, offset) ← readMany
      (fun offset => do parseUtf8String strict (← indexFrom buffer offset))
      totalLen (totalLen + 1) offset
    rejectIf (strict = true ∧ topicFilters = [])
      (.err (.parseError "UNSUBSCRIBE payload must contain at least one topic filter"))
    rejectIf (offset ≠ totalLen) (inconsistentOffset offset totalLen)
    validatedPacket strict (.unsubscribe5 { packetId, topicFilters, properties }) offset

/-- PINGREQ and PINGRESP: no fields, and in the strict build no bytes either. -/
def pingFromBytes (kind : ControlPacketType) (name : String) (p : MqttPacket) (strict : Bool)
    (buffer : Bytes) : Decode ParseOk := do
  expectType kind buffer
  withFrame strict buffer fun size _ totalLen => do
    rejectIf (strict = true ∧ size ≠ 0)
      (.err (.parseError s!"{name} packet must have remaining length of 0"))
    onlyIf strict (expectFlags 0x00 buffer s!"{name} packet has invalid fixed header flags")
    return .packet p totalLen

def MqttPingReq.fromBytes : Bool → Bytes → Decode ParseOk :=
  pingFromBytes .pingreq "PINGREQ" .pingReq5

def MqttPingResp.fromBytes : Bool → Bytes → Decode ParseOk :=
  pingFromBytes .pingresp "PINGRESP" .pingResp5

/-- Reason code and properties of DISCONNECT, with the offset behind them. -/
def MqttDisconnect.readFields (strict : Bool) (size : Nat) (buffer : Bytes)
    (offset totalLen : Nat) : Decode (UInt8 × Properties × Nat) :=
  if size > 0 then do
    rejectIf (offset ≥ totalLen) (.err .bufferTooShort)
    let reasonCode ← Decode.index buffer[offset]?
    let offset := offset + 1
    let (properties, consumed) ← readProperties strict buffer offset totalLen
    return (reasonCode, properties, offset + consumed)
  else .ok (0x00, [], offset)

def MqttDisconnect.fromBytes (strict : Bool) (buffer : Bytes) : Decode ParseOk := do
  expectType .disconnect buffer
  withFrame strict buffer fun size offset totalLen => do
    onlyIf strict (expectFlags 0x00 buffer "DISCONNECT packet has invalid fixed header flags")
    let (reasonCode, properties, offset) ←
      MqttDisconnect.readFields strict size buffer offset totalLen
    rejectIf (offset ≠ totalLen) (inconsistentOffset offset totalLen)
    validatedPacket strict (.disconnect5 { reasonCode, properties }) totalLen

def MqttAuth.fromBytes (strict : Bool) (buffer : Bytes) : Decode ParseOk := do
  expectType .auth buffer
  withFrame strict buffer fun size offset totalLen => do
    onlyIf strict (expectFlags 0x00 buffer "AUTH packet has invalid fixed header flags")
    if size = 0 then validatedPacket strict (.auth { reasonCode := 0x00, properties := [] }) totalLen
    else do
      rejectIf (offset ≥ totalLen) (.err .bufferTooShort)
      let reasonCode ← Decode.index buffer[offset]?
      let offset := offset + 1
      let (properties, consumed) ← parsePropertiesHdr strict (← getRange buffer offset totalLen)
      let offset := offset + consumed
      rejectIf (offset ≠ totalLen) (inconsistentOffset offset totalLen)
      validatedPacket strict (.auth { reasonCode, properties }) totalLen

end V5

/-! ## MQTT 3 -/

namespace V3

/-- A length-prefixed field of CONNECT: the length is decoded first, then the bytes are
tested against the end of the buffer. -/
def indexBinary (buffer : Bytes) (offset : Nat) : Decode (Bytes × Nat) := do
  let (len, _) ← TwoByteInteger.decode (← indexFrom buffer offset)
  let offset := offset + 2
  rejectIf (offset + len.toNat > buffer.length) (.err .bufferTooShort)
  let data ← indexRange buffer offset (offset + len.toNat)
  return (data, offset + len.toNat)

def readWill (strict : Bool) (buffer : Bytes) (flags : UInt8) (offset : Nat) :
    Decode (Option Will × Nat) :=
  if flags &&& 0x04 > 0 then do
    let (topic, consumed) ← parseUtf8String strict (← indexFrom buffer offset)
    let (message, offset) ← indexBinary buffer (offset + consumed)
    let will : Will :=
      { retain := flags &&& 0x20 > 0, qos := (flags &&& 0x18) >>> 3, topic, message }
    return (some will, offset)
  else .ok (none, offset)

def readUsername (strict : Bool) (buffer : Bytes) (flags : UInt8) (offset : Nat) :
    Decode (Option String × Nat) :=
  if flags &&& 0x80 > 0 then do
    let (username, consumed) ← parseUtf8String strict (← indexFrom buffer offset)
    return (some username, offset + consumed)
  else .ok (none, offset)

def readPassword (buffer : Bytes) (flags : UInt8) (offset : Nat) : Decode (Option Bytes × Nat) :=
  if flags &&& 0x40 > 0 then do
    let (password, offset) ← indexBinary buffer offset
    return (some password, offset)
  else .ok (none, offset)

def MqttConnect.fromBytes (strict : Bool) (buffer : Bytes) : Decode ParseOk := do
  expectType .connect buffer
  onlyIf strict (Decode.check (Validation.fixedHeader (buffer.headD 0)))
  withFrame strict buffer fun _ offset totalLen => do
    let (protocolName, consumed) ← parseUtf8String strict (← indexFrom buffer offset)
    let offset := offset + consumed
    let version ← getByte buffer offset
    let offset := offset + 1
    rejectIf (version ≠ 4 ∧ version ≠ 3) (.err (.parseError "Invalid protocol version"))
    rejectIf (¬ ((protocolName = "MQTT" ∧ version = 4) ∨ (protocolName = "MQIsdp" ∧ version = 3)))
      (.err (.parseError "Invalid protocol name"))
    let flags ← getByte buffer offset
    onlyIf strict (Decode.check (Validation.connectFlags flags))
    let offset := offset + 1
    rejectIf (flags &&& 0x01 ≠ 0) (.err (.parseError "CONNECT reserved flag bit is not 0"))
    rejectIf (flags &&& 0x40 > 0 ∧ ¬ flags &&& 0x80 > 0)
      (.err (.parseError "Password flag requires username flag"))
    let (keepAlive, _) ← TwoByteInteger.decode (← indexFrom buffer offset)
    let offset := offset + 2
    let (clientId, consumed) ← parseUtf8String strict (← indexFrom buffer offset)
    let offset := offset + consumed
    let (will, offset) ← readWill strict buffer flags offset
    let (username, offset) ← readUsername strict buffer flags offset
    let (password, offset) ← readPassword buffer flags offset
    rejectIf (offset ≠ totalLen)
      (.err (.internalError "Failed to consume entire CONNECT packet"))
    validatedPacket strict (.connect3 {
      protocolName, protocolVersion := version, cleanSession := flags &&& 0x02 > 0
      keepAlive, clientId, will, username, password }) totalLen

def MqttConnAck.fromBytes (strict : Bool) (buffer : Bytes) : Decode ParseOk := do
  expectType .connack buffer
  expectFlags 0x00 buffer "CONNACK packet has invalid fixed header flags"
  withFrame strict buffer fun size offset totalLen => do
    rejectIf (size ≠ 2) (.err (.parseError "CONNACK packet must have a remaining length of 2"))
    let sessionPresentByte ← Decode.index buffer[offset]?
    rejectIf (sessionPresentByte &&& 0xFE ≠ 0)
      (.err (.parseError "CONNACK session present flags reserved bits must be 0"))
    let returnCode ← Decode.index buffer[offset + 1]?
    rejectIf (returnCode > 5) (.err (.parseError "Invalid CONNACK return code"))
    validatedPacket strict
      (.connAck3 { sessionPresent := sessionPresentByte = 0x01, returnCode }) totalLen

def readMessageId (qos : UInt8) (buffer : Bytes) (offset totalLen : Nat) :
    Decode (Option UInt16 × Nat) :=
  if qos > 0 then do
    rejectIf (offset + 2 > totalLen) (.err (.parseError "Missing message ID for QoS > 0"))
    let id ← indexU16 buffer offset
    return (some id, offset + 2)
  else .ok (none, offset)

def MqttPublish.fromBytes (strict : Bool) (buffer : Bytes) : Decode ParseOk := do
  expectType .publish buffer
  let flags := flagsOf buffer
  let dup : Bool := flags &&& 0x08 > 0
  let qos := (flags &&& 0x06) >>> 1
  let retain : Bool := flags &&& 0x01 > 0
  rejectIf (qos > 2) (.err (.parseError "Invalid QoS level"))
  withFrame strict buffer fun _ offset totalLen => do
    let (topicName, consumed) ← parseUtf8String strict (← indexRange buffer offset totalLen)
    let offset := offset + consumed
    let (messageId, offset) ← readMessageId qos buffer offset totalLen
    let payload ← indexRange buffer offset totalLen
    validatedPacket strict
      (.publish3 { dup, qos, retain, topicName, messageId, payload }) totalLen

/-- The decoder of the macro `v3_packet_id_ack!`. -/
def PacketIdAck.fromBytes (kind : ControlPacketType) (flags : UInt8) (packetName : String)
    (mk : PacketIdAck → MqttPacket) (strict : Bool) (buffer : Bytes) : Decode ParseOk := do
  expectType kind buffer
  expectFlags flags buffer (packetName ++ " packet has invalid fixed header flags")
  withFrame strict buffer fun size offset totalLen => do
    rejectIf (size ≠ 2)
      (.err (.parseError (packetName ++ " packet must have remaining length of 2")))
    let messageId ← indexU16 buffer offset
    validatedPacket strict (mk { messageId }) totalLen

/-- One turn of the payload loop of SUBSCRIBE, and the bytes it took. -/
def SubscriptionTopic.fromBytes (strict : Bool) (buffer : Bytes) (payloadEnd offset : Nat) :
    Decode (SubscriptionTopic × Nat) := do
  let (topicFilter, consumed) ← parseUtf8String strict (← indexRange buffer offset payloadEnd)
  let offset := offset + consumed
  rejectIf (offset ≥ payloadEnd) (.err (.parseError "SUBSCRIBE payload is missing QoS byte"))
  let qos ← Decode.index buffer[offset]?
  rejectIf (qos > 2) (.err (.parseError "Invalid QoS level in payload"))
  return ({ topicFilter, qos }, consumed + 1)

def MqttSubscribe.fromBytes (strict : Bool) (buffer : Bytes) : Decode ParseOk := do
  expectType .subscribe buffer
  expectFlags 0x02 buffer "SUBSCRIBE packet has invalid fixed header flags"
  withFrame strict buffer fun size offset totalLen => do
    rejectIf (size < 2)
      (.err (.parseError "SUBSCRIBE packet must have a 2-byte message identifier"))
    let messageId ← indexU16 buffer offset
    let offset := offset + 2
    let (subscriptions, offset) ← readMany (SubscriptionTopic.fromBytes strict buffer totalLen)
      totalLen (totalLen + 1) offset
    rejectIf (offset ≠ totalLen)
      (.err (.internalError "Failed to consume entire SUBSCRIBE packet"))
    validatedPacket strict (.subscribe3 { messageId, subscriptions }) totalLen

def MqttSubAck.fromBytes (strict : Bool) (buffer : Bytes) : Decode ParseOk := do
  expectType .suback buffer
  expectFlags 0x00 buffer "SUBACK packet has invalid fixed header flags"
  withFrame strict buffer fun size offset totalLen => do
    rejectIf (size < 2) (.err (.parseError "SUBACK packet must have a 2-byte message identifier"))
    let messageId ← indexU16 buffer offset
    let offset := offset + 2
    let returnCodes ← indexRange buffer offset totalLen
    forEach (fun code => rejectIf (¬ subAckCode code)
      (.err (.parseError s!"Invalid SUBACK return code in payload: {code}"))) returnCodes
    validatedPacket strict (.subAck3 { messageId, returnCodes }) totalLen

def MqttUnsubscribe.fromBytes (strict : Bool) (buffer : Bytes) : Decode ParseOk := do
  expectType .unsubscribe buffer
  expectFlags 0x02 buffer "UNSUBSCRIBE packet has invalid fixed header flags"
  withFrame strict buffer fun size offset totalLen => do
    rejectIf (size < 2)
      (.err (.parseError "UNSUBSCRIBE packet must have a 2-byte message identifier"))
    let messageId ← indexU16 buffer offset
    let offset := offset + 2
    let (topicFilters, offset) ← readMany
      (fun offset => do parseUtf8String strict (← indexRange buffer offset totalLen))
      totalLen (totalLen + 1) offset
    rejectIf (offset ≠ totalLen)
      (.err (.internalError "Failed to consume entire UNSUBSCRIBE packet"))
    validatedPacket strict (.unsubscribe3 { messageId, topicFilters }) totalLen

/-- PINGREQ and PINGRESP. A buffer of one byte is answered before the length is read. -/
def pingFromBytes (kind : ControlPacketType) (name : String) (p : MqttPacket) (strict : Bool)
    (buffer : Bytes) : Decode ParseOk := do
  expectType kind buffer
  expectFlags 0x00 buffer s!"{name} packet has invalid fixed header flags"
  if (buffer.drop 1).isEmpty then return .continue 1 0
  else withFrame strict buffer fun size _ totalLen => do
    rejectIf (size ≠ 0)
      (.err (.parseError s!"{name} packet must have a remaining length of 0"))
    return .packet p totalLen

def MqttPingReq.fromBytes : Bool → Bytes → Decode ParseOk :=
  pingFromBytes .pingreq "PINGREQ" .pingReq3

def MqttPingResp.fromBytes : Bool → Bytes → Decode ParseOk :=
  pingFromBytes .pingresp "PINGRESP" .pingResp3

def MqttDisconnect.fromBytes (strict : Bool) (buffer : Bytes) : Decode ParseOk := do
  expectType .disconnect buffer
  expectFlags 0x00 buffer "DISCONNECT packet has invalid fixed header flags"
  withFrame strict buffer fun size _ totalLen => do
    rejectIf (size ≠ 0)
      (.err (.parseError "MQTT v3.1.1 DISCONNECT packet must have remaining length of 0"))
    return .packet .disconnect3 totalLen

end V3

/-! ## Dispatch -/

namespace MqttPacket

/-- The decoder of each packet type in `from_bytes_v5`. -/
def decoder5 : ControlPacketType → Bool → Bytes → Decode ParseOk
  | .connect => V5.MqttConnect.fromBytes
  | .connack => V5.MqttConnAck.fromBytes
  | .publish => V5.MqttPublish.fromBytes
  | .puback => V5.PacketIdAck.fromBytes .puback 0x00 "PUBACK" .pubAck5
  | .pubrec => V5.PacketIdAck.fromBytes .pubrec 0x00 "PUBREC" .pubRec5
  | .pubrel => V5.PacketIdAck.fromBytes .pubrel 0x02 "PUBREL" .pubRel5
  | .pubcomp => V5.PacketIdAck.fromBytes .pubcomp 0x00 "PUBCOMP" .pubComp5
  | .subscribe => V5.MqttSubscribe.fromBytes
  | .suback => V5.MqttSubAck.fromBytes
  | .unsubscribe => V5.MqttUnsubscribe.fromBytes
  | .unsuback => V5.MqttUnsubAck.fromBytes
  | .pingreq => V5.MqttPingReq.fromBytes
  | .pingresp => V5.MqttPingResp.fromBytes
  | .disconnect => V5.MqttDisconnect.fromBytes
  | .auth => V5.MqttAuth.fromBytes

/-- The decoder of each packet type in `from_bytes_v3`; AUTH is not a type of MQTT 3. -/
def decoder3 : ControlPacketType → Bool → Bytes → Decode ParseOk
  | .connect => V3.MqttConnect.fromBytes
  | .connack => V3.MqttConnAck.fromBytes
  | .publish => V3.MqttPublish.fromBytes
  | .puback => V3.PacketIdAck.fromBytes .puback 0x00 "PUBACK" .pubAck3
  | .pubrec => V3.PacketIdAck.fromBytes .pubrec 0x00 "PUBREC" .pubRec3
  | .pubrel => V3.PacketIdAck.fromBytes .pubrel 0x02 "PUBREL" .pubRel3
  | .pubcomp => V3.PacketIdAck.fromBytes .pubcomp 0x00 "PUBCOMP" .pubComp3
  | .subscribe => V3.MqttSubscribe.fromBytes
  | .suback => V3.MqttSubAck.fromBytes
  | .unsubscribe => V3.MqttUnsubscribe.fromBytes
  | .unsuback => V3.PacketIdAck.fromBytes .unsuback 0x00 "UNSUBACK" .unsubAck3
  | .pingreq => V3.MqttPingReq.fromBytes
  | .pingresp => V3.MqttPingResp.fromBytes
  | .disconnect => V3.MqttDisconnect.fromBytes
  | .auth => fun _ _ => Decode.fail .invalidPacketType

def fromBytesV5 (strict : Bool) (buffer : Bytes) : Decode ParseOk := do
  let packetTypeByte ← FlowSdk.packetType buffer
  let kind ← Decode.check (ControlPacketType.tryFrom packetTypeByte)
  decoder5 kind strict buffer

def fromBytesV3 (strict : Bool) (buffer : Bytes) : Decode ParseOk := do
  let packetTypeByte ← FlowSdk.packetType buffer
  let kind ← Decode.check (ControlPacketType.tryFrom packetTypeByte)
  decoder3 kind strict buffer

def fromBytesWithVersion (strict : Bool) (buffer : Bytes) (mqttVersion : UInt8) : Decode ParseOk :=
  match mqttVersion with
  | 3 | 4 => fromBytesV3 strict buffer
  | 5 => fromBytesV5 strict buffer
  | _ => Decode.fail .invalidPacketType

end MqttPacket

end FlowSdk
