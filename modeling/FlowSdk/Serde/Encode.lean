/-
  FlowSdk.Serde.Encode — `MqttPacket::to_bytes`.

  Most packets are written by the default encoder of `MqttControlPacket`: fixed header,
  variable header, payload. PUBLISH has its own encoder, which computes the remaining
  length from the parts before it writes them.
-/
import FlowSdk.Serde.Validation

namespace FlowSdk

open Wire

/-! ## The default encoder -/

/-- `fixed_header`: type and flags, then the remaining length (`len as u32`). -/
def fixedHeader (kind : ControlPacketType) (flags : UInt8) (len : Nat) : Bytes :=
  ((kind.code <<< 4) ||| flags) :: VariableByteInteger.encode (UInt32.ofNat len)

/-- `MqttControlPacket::to_bytes`. -/
def encodePacket (kind : ControlPacketType) (flags : UInt8)
    (validate : Except ParseError Unit) (variableHeader payload : Except ParseError Bytes) :
    Except ParseError Bytes := do
  validate
  let vhdr ← variableHeader
  let payload ← payload
  return fixedHeader kind flags (vhdr.length + payload.length) ++ vhdr ++ payload

/-- `for item in items { bytes.extend(encode(item)?); }`. -/
def encodeEach {α : Type} (encode : α → Except ParseError Bytes) :
    List α → Except ParseError Bytes
  | [] => .ok []
  | item :: items => do
    let bytes ← encode item
    let rest ← encodeEach encode items
    return bytes ++ rest

/-- `encode_publish_header_into`. -/
def encodePublishHeader (flags : UInt8) (topic : String) (packetId : Option UInt16)
    (propertiesLen payloadLen : Nat) : Bytes :=
  let remainingLength :=
    2 + strLen topic + (if packetId.isSome then 2 else 0) + propertiesLen + payloadLen
  (0x30 ||| flags) :: VariableByteInteger.encode (UInt32.ofNat remainingLength) ++
    TwoByteInteger.encode (UInt16.ofNat (strLen topic)) ++ strBytes topic ++
    (match packetId with
    | some id => TwoByteInteger.encode id
    | none => [])

/-- The identifier a PUBLISH is written with: it is required above QoS 0 and left out at 0. -/
def publishId (qos : UInt8) (id : Option UInt16) (message : String) :
    Except ParseError (Option UInt16) :=
  if qos > 0 then
    match id with
    | some id => .ok (some id)
    | none => .error (.parseError message)
  else .ok none

/-- `encode_publish_into`. -/
def encodePublish (flags : UInt8) (topic : String) (packetId : Option UInt16)
    (properties payload : Bytes) : Bytes :=
  encodePublishHeader flags topic packetId properties.length payload.length ++
    properties ++ payload

/-! ## MQTT 5 -/

namespace V5

def MqttConnect.connectFlags (p : MqttConnect) : UInt8 :=
  let flags : UInt8 := if p.username.isSome then 0x80 else 0
  let flags : UInt8 := if p.password.isSome then flags ||| 0x40 else flags
  let flags : UInt8 := match p.will with
    | some will =>
      let flags : UInt8 := flags ||| (0x04 : UInt8) ||| (will.willQos <<< 3)
      if will.willRetain then flags ||| 0x20 else flags
    | none => flags
  if p.cleanStart then flags ||| 0x02 else flags

/-- The will properties in the order the payload writes them. -/
def WillProperties.toList (w : WillProperties) : Properties :=
  (w.willDelayInterval.map Property.willDelayInterval).toList ++
  (w.payloadFormatIndicator.map Property.payloadFormatIndicator).toList ++
  (w.messageExpiryInterval.map Property.messageExpiryInterval).toList ++
  (w.contentType.map Property.contentType).toList ++
  (w.responseTopic.map Property.responseTopic).toList ++
  (w.correlationData.map Property.correlationData).toList ++
  w.userProperties

def MqttConnect.variableHeader (strict : Bool) (p : MqttConnect) : Except ParseError Bytes := do
  let name ← encodeUtf8String strict p.protocolName
  let props ← encodeProperitiesHdr strict p.properties
  return name ++ [p.protocolVersion, p.connectFlags] ++ TwoByteInteger.encode p.keepAlive ++ props

def Will.payload (strict : Bool) (will : Will) : Except ParseError Bytes := do
  let willProperties := will.properties.toList
  onlyIf strict (Validation.properties willProperties .will)
  let props ← encodeProperitiesHdr strict willProperties
  let topic ← encodeUtf8String strict will.willTopic
  let message ← encodeBinaryData will.willMessage
  return props ++ topic ++ message

def MqttConnect.payload (strict : Bool) (p : MqttConnect) : Except ParseError Bytes := do
  let clientId ← encodeUtf8String strict p.clientId
  let will ← match p.will with
    | some will => will.payload strict
    | none => .ok []
  let username ← match p.username with
    | some username => encodeUtf8String strict username
    | none => .ok []
  let password ← match p.password with
    | some password => encodeBinaryData password
    | none => .ok []
  return clientId ++ will ++ username ++ password

def MqttConnAck.variableHeader (strict : Bool) (p : MqttConnAck) : Except ParseError Bytes := do
  let props ← encodeProperitiesHdr strict (p.properties.getD [])
  return [if p.sessionPresent then 1 else 0, p.reasonCode] ++ props

def MqttPublish.flags (p : MqttPublish) : UInt8 :=
  let val : UInt8 := p.qos <<< 1
  let val := if p.dup then val ||| 0x08 else val
  if p.retain then val ||| 0x01 else val

/-- `encode_to_buffer` into an empty buffer. -/
def MqttPublish.toBytes (strict : Bool) (p : MqttPublish) : Except ParseError Bytes := do
  onlyIf strict p.validate
  rejectIf (strLen p.topicName > u16Max) .stringTooLong
  let packetId ← publishId p.qos p.packetId "QoS > 0 requires a packet identifier"
  if p.properties = [] then
    return encodePublish p.flags p.topicName packetId [0] p.payload
  else
    let properties ← PropertyEncoder.new strict p.properties
    return encodePublishHeader p.flags p.topicName packetId properties.encodedLen
      p.payload.length ++ properties.encodeInto ++ p.payload

def PacketIdAck.variableHeader (strict : Bool) (p : PacketIdAck) : Except ParseError Bytes :=
  if p.reasonCode = 0x00 ∧ p.properties = [] then .ok (TwoByteInteger.encode p.packetId)
  else do
    let props ← encodeProperitiesHdr strict p.properties
    return TwoByteInteger.encode p.packetId ++ [p.reasonCode] ++ props

def PacketIdAck.toBytes (kind : ControlPacketType) (flags : UInt8) (strict : Bool)
    (p : PacketIdAck) : Except ParseError Bytes :=
  encodePacket kind flags (onlyIf strict (p.validate kind)) (p.variableHeader strict) (.ok [])

def TopicSubscription.encodeSubscriptionOptions (s : TopicSubscription) : UInt8 :=
  let options : UInt8 := s.qos &&& 0x03
  let options := if s.noLocal then options ||| 0x04 else options
  let options := if s.retainAsPublished then options ||| 0x08 else options
  options ||| ((s.retainHandling &&& 0x03) <<< 4)

def TopicSubscription.toBytes (strict : Bool) (s : TopicSubscription) : Except ParseError Bytes := do
  onlyIf strict (Validation.subscription s)
  let filter ← encodeUtf8String strict s.topicFilter
  return filter ++ [s.encodeSubscriptionOptions]

def MqttSubscribe.variableHeader (strict : Bool) (p : MqttSubscribe) : Except ParseError Bytes := do
  rejectIf (strict = true ∧ p.packetId = 0) (.parseError "SUBSCRIBE packet_id must be > 0")
  let props ← encodeProperitiesHdr strict p.properties
  return TwoByteInteger.encode p.packetId ++ props

def MqttSubscribe.payload (strict : Bool) (p : MqttSubscribe) : Except ParseError Bytes := do
  rejectIf (strict = true ∧ p.subscriptions = [])
    (.parseError "SUBSCRIBE payload must contain at least one subscription")
  encodeEach (TopicSubscription.toBytes strict) p.subscriptions

/-- The variable header SUBACK and UNSUBACK share, under the packet's own message. -/
def subAckVariableHeader (name : String) (strict : Bool) (packetId : UInt16)
    (properties : Properties) : Except ParseError Bytes := do
  rejectIf (strict = true ∧ packetId = 0) (.parseError s!"{name} packet_id must be > 0")
  let props ← encodeProperitiesHdr strict properties
  return TwoByteInteger.encode packetId ++ props

def subAckPayload (name : String) (strict : Bool) (reasonCodes : Bytes) :
    Except ParseError Bytes := do
  rejectIf (strict = true ∧ reasonCodes = [])
    (.parseError s!"{name} payload must contain at least one reason code")
  return reasonCodes

def MqttUnsubscribe.variableHeader (strict : Bool) (p : MqttUnsubscribe) :
    Except ParseError Bytes := do
  rejectIf (strict = true ∧ p.packetId = 0) (.parseError "UNSUBSCRIBE packet_id must be > 0")
  let props ← encodeProperitiesHdr strict p.properties
  return TwoByteInteger.encode p.packetId ++ props

def MqttUnsubscribe.payload (strict : Bool) (p : MqttUnsubscribe) : Except ParseError Bytes := do
  rejectIf (strict = true ∧ p.topicFilters = [])
    (.parseError "UNSUBSCRIBE payload must contain at least one topic filter")
  encodeEach (encodeUtf8String strict) p.topicFilters

def MqttDisconnect.variableHeader (strict : Bool) (p : MqttDisconnect) :
    Except ParseError Bytes :=
  if p.reasonCode = 0x00 ∧ p.properties = [] then .ok []
  else do
    let props ← encodeProperitiesHdr strict p.properties
    return [p.reasonCode] ++ props

def MqttAuth.variableHeader (strict : Bool) (p : MqttAuth) : Except ParseError Bytes := do
  let props ← encodeProperitiesHdr strict p.properties
  return [p.reasonCode] ++ props

end V5

/-! ## MQTT 3 -/

namespace V3

def MqttConnect.flags (p : MqttConnect) : UInt8 :=
  let flags : UInt8 := if p.cleanSession then 0x02 else 0
  let flags : UInt8 := match p.will with
    | some will =>
      let flags : UInt8 := flags ||| (0x04 : UInt8) ||| (will.qos <<< 3)
      if will.retain then flags ||| 0x20 else flags
    | none => flags
  let flags : UInt8 := if p.username.isSome then flags ||| 0x80 else flags
  if p.password.isSome then flags ||| 0x40 else flags

def MqttConnect.variableHeader (p : MqttConnect) : Bytes :=
  Utf8String.encode p.protocolName ++ [p.protocolVersion, p.flags] ++
    TwoByteInteger.encode p.keepAlive

def MqttConnect.payload (p : MqttConnect) : Bytes :=
  Utf8String.encode p.clientId ++
  (match p.will with
  | some will => Utf8String.encode will.topic ++ BinaryData.encode will.message
  | none => []) ++
  (match p.username with
  | some username => Utf8String.encode username
  | none => []) ++
  (match p.password with
  | some password => BinaryData.encode password
  | none => [])

def MqttConnAck.variableHeader (p : MqttConnAck) : Except ParseError Bytes := do
  rejectIf (p.returnCode > 5) (.parseError "Invalid CONNACK return code")
  return [if p.sessionPresent then 1 else 0, p.returnCode]

/-- `((dup as u8) << 3) | (qos << 1) | (retain as u8)`. -/
def publishFlags (dup : Bool) (qos : UInt8) (retain : Bool) : UInt8 :=
  (dup.toUInt8 <<< 3) ||| (qos <<< 1) ||| retain.toUInt8

def MqttPublish.flags (p : MqttPublish) : UInt8 := publishFlags p.dup p.qos p.retain

def MqttPublish.toBytes (strict : Bool) (p : MqttPublish) : Except ParseError Bytes := do
  onlyIf strict p.validate
  let packetId ← publishId p.qos p.messageId "Message ID is required for QoS > 0"
  return encodePublish p.flags p.topicName packetId [] p.payload

def PacketIdAck.toBytes (kind : ControlPacketType) (flags : UInt8) (strict : Bool)
    (p : PacketIdAck) : Except ParseError Bytes :=
  encodePacket kind flags (onlyIf strict p.validate) (.ok (TwoByteInteger.encode p.messageId))
    (.ok [])

def SubscriptionTopic.toBytes (sub : SubscriptionTopic) : Except ParseError Bytes := do
  rejectIf (sub.qos > 2) (.parseError "Invalid QoS level")
  return Utf8String.encode sub.topicFilter ++ [sub.qos]

def MqttSubAck.payload (p : MqttSubAck) : Except ParseError Bytes := do
  forEach (fun code => rejectIf (¬ subAckCode code)
    (.parseError s!"Invalid SUBACK return code: {code}")) p.returnCodes
  return p.returnCodes

end V3

/-! ## The union -/

namespace MqttPacket

def toBytes (strict : Bool) : MqttPacket → Except ParseError Bytes
  | .connect5 p => encodePacket .connect 0 (onlyIf strict p.validate)
      (p.variableHeader strict) (p.payload strict)
  | .connAck5 p => encodePacket .connack 0 (onlyIf strict p.validate)
      (p.variableHeader strict) (.ok [])
  | .publish5 p => p.toBytes strict
  | .pubAck5 p => p.toBytes .puback 0x00 strict
  | .pubRec5 p => p.toBytes .pubrec 0x00 strict
  | .pubRel5 p => p.toBytes .pubrel 0x02 strict
  | .pubComp5 p => p.toBytes .pubcomp 0x00 strict
  | .subscribe5 p => encodePacket .subscribe 0x02 (onlyIf strict p.validate)
      (p.variableHeader strict) (p.payload strict)
  | .subAck5 p => encodePacket .suback 0 (onlyIf strict p.validate)
      (V5.subAckVariableHeader "SUBACK" strict p.packetId p.properties)
      (V5.subAckPayload "SUBACK" strict p.reasonCodes)
  | .unsubscribe5 p => encodePacket .unsubscribe 0x02 (onlyIf strict p.validate)
      (p.variableHeader strict) (p.payload strict)
  | .unsubAck5 p => encodePacket .unsuback 0 (onlyIf strict p.validate)
      (V5.subAckVariableHeader "UNSUBACK" strict p.packetId p.properties)
      (V5.subAckPayload "UNSUBACK" strict p.reasonCodes)
  | .pingReq5 | .pingReq3 => encodePacket .pingreq 0 (.ok ()) (.ok []) (.ok [])
  | .pingResp5 | .pingResp3 => encodePacket .pingresp 0 (.ok ()) (.ok []) (.ok [])
  | .disconnect5 p => encodePacket .disconnect 0 (onlyIf strict p.validate)
      (p.variableHeader strict) (.ok [])
  | .auth p => encodePacket .auth 0 (onlyIf strict p.validate) (p.variableHeader strict) (.ok [])
  | .connect3 p => encodePacket .connect 0 (onlyIf strict p.validate) (.ok p.variableHeader)
      (.ok p.payload)
  | .connAck3 p => encodePacket .connack 0 (onlyIf strict p.validate) p.variableHeader (.ok [])
  | .publish3 p => p.toBytes strict
  | .pubAck3 p => p.toBytes .puback 0x00 strict
  | .pubRec3 p => p.toBytes .pubrec 0x00 strict
  | .pubRel3 p => p.toBytes .pubrel 0x02 strict
  | .pubComp3 p => p.toBytes .pubcomp 0x00 strict
  | .subscribe3 p => encodePacket .subscribe 0x02 (onlyIf strict p.validate)
      (.ok (TwoByteInteger.encode p.messageId)) (encodeEach V3.SubscriptionTopic.toBytes
        p.subscriptions)
  | .subAck3 p => encodePacket .suback 0 (onlyIf strict p.validate)
      (.ok (TwoByteInteger.encode p.messageId)) p.payload
  | .unsubscribe3 p => encodePacket .unsubscribe 0x02 (onlyIf strict p.validate)
      (.ok (TwoByteInteger.encode p.messageId)) (.ok (p.topicFilters.flatMap Utf8String.encode))
  | .unsubAck3 p => p.toBytes .unsuback 0x00 strict
  | .disconnect3 => encodePacket .disconnect 0 (.ok ()) (.ok []) (.ok [])

end MqttPacket

end FlowSdk
