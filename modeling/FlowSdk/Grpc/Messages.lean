/-
  FlowSdk.Grpc.Messages — packets as protocol buffers.

  A tunnel carries the packets of a connection as messages of a gRPC stream. The messages are
  records with the fields of the `.proto` files, for MQTT 3 and 5, and `MqttStreamMessage` wraps
  them. Numbers are widened to 32 bits on the way in and cut on the way out, properties of one
  byte with two values become booleans, and optional fields of CONNECT and PUBLISH are flattened
  to an empty value.

  `tryFrom` and `From` of the source are `ofMqtt` for a message and `toMqtt` for a packet.
-/
import FlowSdk.Serde.Decode

namespace FlowSdk

open Wire

/-- `QoS` is an open enumeration of 32 bits. -/
def qosToPb (qos : UInt8) : Int32 := qos.toUInt32.toInt32

def qosFromPb (qos : Int32) : UInt8 := qos.toUInt32.toUInt8

@[simp] theorem qosFromPb_qosToPb (qos : UInt8) : qosFromPb (qosToPb qos) = qos :=
  UInt8.toUInt8_toUInt32 qos

/-- `val != 0`, and `if val { 1 } else { 0 }`. -/
def flagToPb (val : UInt8) : Bool := val ≠ 0

def flagFromPb (val : Bool) : UInt8 := if val then 1 else 0

theorem flagFromPb_flagToPb {val : UInt8} (h : val ≤ 1) : flagFromPb (flagToPb val) = val := by
  rw [UInt8.le_iff_toNat_le] at h
  have hone : UInt8.toNat 1 = 1 := rfl
  rw [flagToPb, flagFromPb]
  split
  next hne =>
    have hpos : val.toNat ≠ 0 := fun hzero => of_decide_eq_true hne (UInt8.toNat_inj.mp hzero)
    exact UInt8.toNat_inj.mp (by omega)
  next heq => exact (of_decide_eq_false (Bool.eq_false_iff.mpr heq) |> Decidable.not_not.mp).symm

/-! ## MQTT 5 -/

namespace Mqttv5pb

inductive PropertyType where
  | payloadFormatIndicator (val : Bool)
  | messageExpiryInterval (val : UInt32)
  | contentType (val : String)
  | responseTopic (val : String)
  | correlationData (val : Bytes)
  | subscriptionIdentifier (val : UInt32)
  | sessionExpiryInterval (val : UInt32)
  | assignedClientIdentifier (val : String)
  | serverKeepAlive (val : UInt32)
  | authenticationMethod (val : String)
  | authenticationData (val : Bytes)
  | requestProblemInformation (val : Bool)
  | willDelayInterval (val : UInt32)
  | requestResponseInformation (val : Bool)
  | responseInformation (val : String)
  | serverReference (val : String)
  | reasonString (val : String)
  | receiveMaximum (val : UInt32)
  | topicAliasMaximum (val : UInt32)
  | topicAlias (val : UInt32)
  | maximumQos (val : UInt32)
  | retainAvailable (val : Bool)
  | userProperty (key value : String)
  | maximumPacketSize (val : UInt32)
  | wildcardSubscriptionAvailable (val : Bool)
  | subscriptionIdentifiersAvailable (val : Bool)
  | sharedSubscriptionAvailable (val : Bool)
deriving DecidableEq, Repr

structure Property where
  propertyType : Option PropertyType
deriving DecidableEq, Repr

/-- `TryFrom<Property> for mqttv5pb::Property`. -/
def Property.ofMqtt : FlowSdk.Property → Option Property
  | .payloadFormatIndicator val => some ⟨some (.payloadFormatIndicator (flagToPb val))⟩
  | .messageExpiryInterval val => some ⟨some (.messageExpiryInterval val)⟩
  | .contentType val => some ⟨some (.contentType val)⟩
  | .responseTopic val => some ⟨some (.responseTopic val)⟩
  | .correlationData val => some ⟨some (.correlationData val)⟩
  | .subscriptionIdentifier val => some ⟨some (.subscriptionIdentifier val)⟩
  | .sessionExpiryInterval val => some ⟨some (.sessionExpiryInterval val)⟩
  | .assignedClientIdentifier val => some ⟨some (.assignedClientIdentifier val)⟩
  | .serverKeepAlive val => some ⟨some (.serverKeepAlive val.toUInt32)⟩
  | .authenticationMethod val => some ⟨some (.authenticationMethod val)⟩
  | .authenticationData val => some ⟨some (.authenticationData val)⟩
  | .requestProblemInformation val => some ⟨some (.requestProblemInformation (flagToPb val))⟩
  | .willDelayInterval val => some ⟨some (.willDelayInterval val)⟩
  | .requestResponseInformation val => some ⟨some (.requestResponseInformation (flagToPb val))⟩
  | .responseInformation val => some ⟨some (.responseInformation val)⟩
  | .serverReference val => some ⟨some (.serverReference val)⟩
  | .reasonString val => some ⟨some (.reasonString val)⟩
  | .receiveMaximum val => some ⟨some (.receiveMaximum val.toUInt32)⟩
  | .topicAliasMaximum val => some ⟨some (.topicAliasMaximum val.toUInt32)⟩
  | .topicAlias val => some ⟨some (.topicAlias val.toUInt32)⟩
  | .maximumQoS val => some ⟨some (.maximumQos val.toUInt32)⟩
  | .retainAvailable val => some ⟨some (.retainAvailable (flagToPb val))⟩
  | .userProperty key value => some ⟨some (.userProperty key value)⟩
  | .maximumPacketSize val => some ⟨some (.maximumPacketSize val)⟩
  | .wildcardSubscriptionAvailable val =>
    some ⟨some (.wildcardSubscriptionAvailable (flagToPb val))⟩
  | .subscriptionIdentifierAvailable val =>
    some ⟨some (.subscriptionIdentifiersAvailable (flagToPb val))⟩
  | .sharedSubscriptionAvailable val => some ⟨some (.sharedSubscriptionAvailable (flagToPb val))⟩

def PropertyType.toMqtt : PropertyType → FlowSdk.Property
  | .payloadFormatIndicator val => .payloadFormatIndicator (flagFromPb val)
  | .messageExpiryInterval val => .messageExpiryInterval val
  | .contentType val => .contentType val
  | .responseTopic val => .responseTopic val
  | .correlationData val => .correlationData val
  | .subscriptionIdentifier val => .subscriptionIdentifier val
  | .sessionExpiryInterval val => .sessionExpiryInterval val
  | .assignedClientIdentifier val => .assignedClientIdentifier val
  | .serverKeepAlive val => .serverKeepAlive val.toUInt16
  | .authenticationMethod val => .authenticationMethod val
  | .authenticationData val => .authenticationData val
  | .requestProblemInformation val => .requestProblemInformation (flagFromPb val)
  | .willDelayInterval val => .willDelayInterval val
  | .requestResponseInformation val => .requestResponseInformation (flagFromPb val)
  | .responseInformation val => .responseInformation val
  | .serverReference val => .serverReference val
  | .reasonString val => .reasonString val
  | .receiveMaximum val => .receiveMaximum val.toUInt16
  | .topicAliasMaximum val => .topicAliasMaximum val.toUInt16
  | .topicAlias val => .topicAlias val.toUInt16
  | .maximumQos val => .maximumQoS val.toUInt8
  | .retainAvailable val => .retainAvailable (flagFromPb val)
  | .userProperty key value => .userProperty key value
  | .maximumPacketSize val => .maximumPacketSize val
  | .wildcardSubscriptionAvailable val => .wildcardSubscriptionAvailable (flagFromPb val)
  | .subscriptionIdentifiersAvailable val => .subscriptionIdentifierAvailable (flagFromPb val)
  | .sharedSubscriptionAvailable val => .sharedSubscriptionAvailable (flagFromPb val)

/-- `TryFrom<mqttv5pb::Property> for Property`: a property without a type is an error. -/
def Property.toMqtt (p : Property) : Option FlowSdk.Property := p.propertyType.map PropertyType.toMqtt

def convertPropertiesToPb (properties : Properties) : List Property :=
  properties.filterMap Property.ofMqtt

def convertPropertiesFromPb (properties : List Property) : Properties :=
  properties.filterMap Property.toMqtt

structure Will where
  qos : Int32
  retain : Bool
  topic : String
  payload : Bytes
  properties : List Property
deriving DecidableEq, Repr

def convertWillPropertiesToPb (w : V5.WillProperties) : List Property :=
  (w.willDelayInterval.bind fun val => Property.ofMqtt (.willDelayInterval val)).toList ++
  (w.payloadFormatIndicator.bind fun val => Property.ofMqtt (.payloadFormatIndicator val)).toList ++
  (w.messageExpiryInterval.bind fun val => Property.ofMqtt (.messageExpiryInterval val)).toList ++
  (w.contentType.bind fun val => Property.ofMqtt (.contentType val)).toList ++
  (w.responseTopic.bind fun val => Property.ofMqtt (.responseTopic val)).toList ++
  (w.correlationData.bind fun val => Property.ofMqtt (.correlationData val)).toList ++
  convertPropertiesToPb w.userProperties

/-- The field updates of the loop of `convert_pb_to_will_properties`. -/
def setWillProperty (w : V5.WillProperties) (p : Property) : V5.WillProperties :=
  match p.propertyType with
  | some (.willDelayInterval val) => { w with willDelayInterval := some val }
  | some (.payloadFormatIndicator val) => { w with payloadFormatIndicator := some (flagFromPb val) }
  | some (.messageExpiryInterval val) => { w with messageExpiryInterval := some val }
  | some (.contentType val) => { w with contentType := some val }
  | some (.responseTopic val) => { w with responseTopic := some val }
  | some (.correlationData val) => { w with correlationData := some val }
  | some (.userProperty key value) =>
    { w with userProperties := w.userProperties ++ [.userProperty key value] }
  | _ => w

def convertPbToWillProperties (properties : List Property) : V5.WillProperties :=
  properties.foldl setWillProperty .empty

def Will.ofMqtt (will : V5.Will) : Will where
  qos := qosToPb will.willQos
  retain := will.willRetain
  topic := will.willTopic
  payload := will.willMessage
  properties := convertWillPropertiesToPb will.properties

def Will.toMqtt (will : Will) : V5.Will where
  willQos := qosFromPb will.qos
  willRetain := will.retain
  willTopic := will.topic
  willMessage := will.payload
  properties := convertPbToWillProperties will.properties

structure Connect where
  clientId : String
  protocolName : String
  protocolVersion : UInt32
  cleanStart : Bool
  keepAlive : UInt32
  username : String
  password : Bytes
  will : Option Will
  properties : List Property
deriving DecidableEq, Repr

def Connect.ofMqtt (connect : V5.MqttConnect) : Connect where
  clientId := connect.clientId
  protocolName := "MQTT"
  protocolVersion := connect.protocolVersion.toUInt32
  cleanStart := connect.cleanStart
  keepAlive := connect.keepAlive.toUInt32
  username := connect.username.getD ""
  password := connect.password.getD []
  will := connect.will.map Will.ofMqtt
  properties := convertPropertiesToPb connect.properties

/-- Through `MqttConnect::new`, which writes the protocol name and version itself. -/
def Connect.toMqtt (connect : Connect) : V5.MqttConnect where
  protocolName := "MQTT"
  protocolVersion := 5
  keepAlive := connect.keepAlive.toUInt16
  clientId := connect.clientId
  will := connect.will.map Will.toMqtt
  username := if connect.username = "" then none else some connect.username
  password := if connect.password = [] then none else some connect.password
  properties := convertPropertiesFromPb connect.properties
  cleanStart := connect.cleanStart

structure Connack where
  sessionPresent : Bool
  reasonCode : UInt32
  properties : List Property
deriving DecidableEq, Repr

def Connack.ofMqtt (connack : V5.MqttConnAck) : Connack where
  sessionPresent := connack.sessionPresent
  reasonCode := connack.reasonCode.toUInt32
  properties := (connack.properties.map convertPropertiesToPb).getD []

def Connack.toMqtt (connack : Connack) : V5.MqttConnAck where
  sessionPresent := connack.sessionPresent
  reasonCode := connack.reasonCode.toUInt8
  properties := some (convertPropertiesFromPb connack.properties)

structure Publish where
  topic : String
  payload : Bytes
  qos : Int32
  retain : Bool
  dup : Bool
  messageId : UInt32
  properties : List Property
deriving DecidableEq, Repr

def Publish.ofMqtt (publish : V5.MqttPublish) : Publish where
  topic := publish.topicName
  payload := publish.payload
  qos := qosToPb publish.qos
  retain := publish.retain
  dup := publish.dup
  messageId := (publish.packetId.getD 0).toUInt32
  properties := convertPropertiesToPb publish.properties

/-- The identifier is there whatever the QoS. -/
def Publish.toMqtt (publish : Publish) : V5.MqttPublish where
  topicName := publish.topic
  qos := qosFromPb publish.qos
  dup := publish.dup
  retain := publish.retain
  packetId := some publish.messageId.toUInt16
  payload := publish.payload
  properties := convertPropertiesFromPb publish.properties

/-- The common shape of `Puback`, `Pubrec`, `Pubrel` and `Pubcomp`. -/
structure Ack where
  messageId : UInt32
  reasonCode : UInt32
  properties : List Property
deriving DecidableEq, Repr

def Ack.ofMqtt (ack : V5.PacketIdAck) : Ack where
  messageId := ack.packetId.toUInt32
  reasonCode := ack.reasonCode.toUInt32
  properties := convertPropertiesToPb ack.properties

def Ack.toMqtt (ack : Ack) : V5.PacketIdAck where
  packetId := ack.messageId.toUInt16
  reasonCode := ack.reasonCode.toUInt8
  properties := convertPropertiesFromPb ack.properties

structure TopicSubscription where
  topicFilter : String
  qos : UInt32
  noLocal : Bool
  retainAsPublished : Bool
  retainHandling : UInt32
deriving DecidableEq, Repr

def TopicSubscription.ofMqtt (sub : V5.TopicSubscription) : TopicSubscription where
  topicFilter := sub.topicFilter
  qos := sub.qos.toUInt32
  noLocal := sub.noLocal
  retainAsPublished := sub.retainAsPublished
  retainHandling := sub.retainHandling.toUInt32

def TopicSubscription.toMqtt (sub : TopicSubscription) : V5.TopicSubscription where
  topicFilter := sub.topicFilter
  qos := sub.qos.toUInt8
  noLocal := sub.noLocal
  retainAsPublished := sub.retainAsPublished
  retainHandling := sub.retainHandling.toUInt8

structure Subscribe where
  messageId : UInt32
  subscriptions : List TopicSubscription
  properties : List Property
deriving DecidableEq, Repr

def Subscribe.ofMqtt (subscribe : V5.MqttSubscribe) : Subscribe where
  messageId := subscribe.packetId.toUInt32
  subscriptions := subscribe.subscriptions.map TopicSubscription.ofMqtt
  properties := convertPropertiesToPb subscribe.properties

def Subscribe.toMqtt (subscribe : Subscribe) : V5.MqttSubscribe where
  packetId := subscribe.messageId.toUInt16
  subscriptions := subscribe.subscriptions.map TopicSubscription.toMqtt
  properties := convertPropertiesFromPb subscribe.properties

structure Suback where
  messageId : UInt32
  reasonCodes : List UInt32
  properties : List Property
deriving DecidableEq, Repr

def Suback.ofMqtt (suback : V5.MqttSubAck) : Suback where
  messageId := suback.packetId.toUInt32
  reasonCodes := suback.reasonCodes.map UInt8.toUInt32
  properties := convertPropertiesToPb suback.properties

def Suback.toMqtt (suback : Suback) : V5.MqttSubAck where
  packetId := suback.messageId.toUInt16
  reasonCodes := suback.reasonCodes.map UInt32.toUInt8
  properties := convertPropertiesFromPb suback.properties

structure Unsubscribe where
  messageId : UInt32
  topicFilters : List String
  properties : List Property
deriving DecidableEq, Repr

def Unsubscribe.ofMqtt (unsubscribe : V5.MqttUnsubscribe) : Unsubscribe where
  messageId := unsubscribe.packetId.toUInt32
  topicFilters := unsubscribe.topicFilters
  properties := convertPropertiesToPb unsubscribe.properties

def Unsubscribe.toMqtt (unsubscribe : Unsubscribe) : V5.MqttUnsubscribe where
  packetId := unsubscribe.messageId.toUInt16
  topicFilters := unsubscribe.topicFilters
  properties := convertPropertiesFromPb unsubscribe.properties

structure Unsuback where
  messageId : UInt32
  reasonCodes : List UInt32
  properties : List Property
deriving DecidableEq, Repr

def Unsuback.ofMqtt (unsuback : V5.MqttUnsubAck) : Unsuback where
  messageId := unsuback.packetId.toUInt32
  reasonCodes := unsuback.reasonCodes.map UInt8.toUInt32
  properties := convertPropertiesToPb unsuback.properties

def Unsuback.toMqtt (unsuback : Unsuback) : V5.MqttUnsubAck where
  packetId := unsuback.messageId.toUInt16
  reasonCodes := unsuback.reasonCodes.map UInt32.toUInt8
  properties := convertPropertiesFromPb unsuback.properties

structure Disconnect where
  reasonCode : UInt32
  properties : List Property
deriving DecidableEq, Repr

def Disconnect.ofMqtt (disconnect : V5.MqttDisconnect) : Disconnect where
  reasonCode := disconnect.reasonCode.toUInt32
  properties := convertPropertiesToPb disconnect.properties

def Disconnect.toMqtt (disconnect : Disconnect) : V5.MqttDisconnect where
  reasonCode := disconnect.reasonCode.toUInt8
  properties := convertPropertiesFromPb disconnect.properties

structure Auth where
  reasonCode : UInt32
  properties : List Property
deriving DecidableEq, Repr

def Auth.ofMqtt (auth : V5.MqttAuth) : Auth where
  reasonCode := auth.reasonCode.toUInt32
  properties := convertPropertiesToPb auth.properties

def Auth.toMqtt (auth : Auth) : V5.MqttAuth where
  reasonCode := auth.reasonCode.toUInt8
  properties := convertPropertiesFromPb auth.properties

inductive Packet where
  | connect (p : Connect)
  | connack (p : Connack)
  | publish (p : Publish)
  | puback (p : Ack)
  | pubrec (p : Ack)
  | pubrel (p : Ack)
  | pubcomp (p : Ack)
  | subscribe (p : Subscribe)
  | suback (p : Suback)
  | unsubscribe (p : Unsubscribe)
  | unsuback (p : Unsuback)
  | pingreq
  | pingresp
  | disconnect (p : Disconnect)
  | auth (p : Auth)
deriving DecidableEq, Repr

/-- `From<mqttv5pb::mqtt_packet::Packet> for MqttPacket`. -/
def Packet.toMqtt : Packet → MqttPacket
  | .connect p => .connect5 p.toMqtt
  | .connack p => .connAck5 p.toMqtt
  | .publish p => .publish5 p.toMqtt
  | .puback p => .pubAck5 p.toMqtt
  | .pubrec p => .pubRec5 p.toMqtt
  | .pubrel p => .pubRel5 p.toMqtt
  | .pubcomp p => .pubComp5 p.toMqtt
  | .subscribe p => .subscribe5 p.toMqtt
  | .suback p => .subAck5 p.toMqtt
  | .unsubscribe p => .unsubscribe5 p.toMqtt
  | .unsuback p => .unsubAck5 p.toMqtt
  | .pingreq => .pingReq5
  | .pingresp => .pingResp5
  | .disconnect p => .disconnect5 p.toMqtt
  | .auth p => .auth p.toMqtt

end Mqttv5pb

/-! ## MQTT 3 -/

namespace Mqttv3pb

structure Will where
  qos : Int32
  retain : Bool
  topic : String
  payload : Bytes
deriving DecidableEq, Repr

def Will.ofMqtt (will : V3.Will) : Will := ⟨qosToPb will.qos, will.retain, will.topic, will.message⟩

def Will.toMqtt (will : Will) : V3.Will :=
  ⟨will.retain, qosFromPb will.qos, will.topic, will.payload⟩

structure Connect where
  clientId : String
  protocolName : String
  protocolVersion : UInt32
  cleanSession : Bool
  keepAlive : UInt32
  username : String
  password : Bytes
  will : Option Will
deriving DecidableEq, Repr

def Connect.ofMqtt (connect : V3.MqttConnect) : Connect where
  clientId := connect.clientId
  protocolName := connect.protocolName
  protocolVersion := connect.protocolVersion.toUInt32
  cleanSession := connect.cleanSession
  keepAlive := connect.keepAlive.toUInt32
  username := connect.username.getD ""
  password := connect.password.getD []
  will := connect.will.map Will.ofMqtt

def Connect.toMqtt (connect : Connect) : V3.MqttConnect where
  protocolName := connect.protocolName
  protocolVersion := connect.protocolVersion.toUInt8
  cleanSession := connect.cleanSession
  keepAlive := connect.keepAlive.toUInt16
  clientId := connect.clientId
  will := connect.will.map Will.toMqtt
  username := if connect.username = "" then none else some connect.username
  password := if connect.password = [] then none else some connect.password

structure Connack where
  sessionPresent : Bool
  returnCode : UInt32
deriving DecidableEq, Repr

def Connack.ofMqtt (connack : V3.MqttConnAck) : Connack :=
  ⟨connack.sessionPresent, connack.returnCode.toUInt32⟩

def Connack.toMqtt (connack : Connack) : V3.MqttConnAck :=
  ⟨connack.sessionPresent, connack.returnCode.toUInt8⟩

structure Publish where
  topic : String
  payload : Bytes
  qos : Int32
  retain : Bool
  dup : Bool
  messageId : UInt32
deriving DecidableEq, Repr

def Publish.ofMqtt (publish : V3.MqttPublish) : Publish where
  topic := publish.topicName
  payload := publish.payload
  qos := qosToPb publish.qos
  retain := publish.retain
  dup := publish.dup
  messageId := (publish.messageId.getD 0).toUInt32

/-- The identifier 0 stands for none. -/
def Publish.toMqtt (publish : Publish) : V3.MqttPublish where
  dup := publish.dup
  qos := qosFromPb publish.qos
  retain := publish.retain
  topicName := publish.topic
  messageId := if publish.messageId = 0 then none else some publish.messageId.toUInt16
  payload := publish.payload

/-- The common shape of `Puback`, `Pubrec`, `Pubrel`, `Pubcomp` and `Unsuback`. -/
structure Ack where
  messageId : UInt32
deriving DecidableEq, Repr

def Ack.ofMqtt (ack : V3.PacketIdAck) : Ack := ⟨ack.messageId.toUInt32⟩

def Ack.toMqtt (ack : Ack) : V3.PacketIdAck := ⟨ack.messageId.toUInt16⟩

structure TopicSubscription where
  topicFilter : String
  qos : UInt32
deriving DecidableEq, Repr

def TopicSubscription.ofMqtt (sub : V3.SubscriptionTopic) : TopicSubscription :=
  ⟨sub.topicFilter, sub.qos.toUInt32⟩

def TopicSubscription.toMqtt (sub : TopicSubscription) : V3.SubscriptionTopic :=
  ⟨sub.topicFilter, sub.qos.toUInt8⟩

structure Subscribe where
  messageId : UInt32
  subscriptions : List TopicSubscription
deriving DecidableEq, Repr

def Subscribe.ofMqtt (subscribe : V3.MqttSubscribe) : Subscribe :=
  ⟨subscribe.messageId.toUInt32, subscribe.subscriptions.map TopicSubscription.ofMqtt⟩

def Subscribe.toMqtt (subscribe : Subscribe) : V3.MqttSubscribe :=
  ⟨subscribe.messageId.toUInt16, subscribe.subscriptions.map TopicSubscription.toMqtt⟩

structure Suback where
  messageId : UInt32
  returnCodes : List UInt32
deriving DecidableEq, Repr

def Suback.ofMqtt (suback : V3.MqttSubAck) : Suback :=
  ⟨suback.messageId.toUInt32, suback.returnCodes.map UInt8.toUInt32⟩

def Suback.toMqtt (suback : Suback) : V3.MqttSubAck :=
  ⟨suback.messageId.toUInt16, suback.returnCodes.map UInt32.toUInt8⟩

structure Unsubscribe where
  messageId : UInt32
  topicFilters : List String
deriving DecidableEq, Repr

def Unsubscribe.ofMqtt (unsubscribe : V3.MqttUnsubscribe) : Unsubscribe :=
  ⟨unsubscribe.messageId.toUInt32, unsubscribe.topicFilters⟩

def Unsubscribe.toMqtt (unsubscribe : Unsubscribe) : V3.MqttUnsubscribe :=
  ⟨unsubscribe.messageId.toUInt16, unsubscribe.topicFilters⟩

inductive Packet where
  | connect (p : Connect)
  | connack (p : Connack)
  | publish (p : Publish)
  | puback (p : Ack)
  | pubrec (p : Ack)
  | pubrel (p : Ack)
  | pubcomp (p : Ack)
  | subscribe (p : Subscribe)
  | suback (p : Suback)
  | unsubscribe (p : Unsubscribe)
  | unsuback (p : Ack)
  | pingreq
  | pingresp
  | disconnect
deriving DecidableEq, Repr

/-- `From<mqttv3pb::mqtt_packet::Packet> for MqttPacket`. -/
def Packet.toMqtt : Packet → MqttPacket
  | .connect p => .connect3 p.toMqtt
  | .connack p => .connAck3 p.toMqtt
  | .publish p => .publish3 p.toMqtt
  | .puback p => .pubAck3 p.toMqtt
  | .pubrec p => .pubRec3 p.toMqtt
  | .pubrel p => .pubRel3 p.toMqtt
  | .pubcomp p => .pubComp3 p.toMqtt
  | .subscribe p => .subscribe3 p.toMqtt
  | .suback p => .subAck3 p.toMqtt
  | .unsubscribe p => .unsubscribe3 p.toMqtt
  | .unsuback p => .unsubAck3 p.toMqtt
  | .pingreq => .pingReq3
  | .pingresp => .pingResp3
  | .disconnect => .disconnect3

end Mqttv3pb

/-! ## The stream -/

namespace MqttUnifiedPb

inductive MessageDirection where
  | clientToBroker
  | brokerToClient
deriving DecidableEq, Repr

inductive ControlType where
  | establishv3
  | establishv5
  | terminate
  | heartbeat
deriving DecidableEq, Repr

structure SessionControl where
  controlType : ControlType
  clientId : String
deriving DecidableEq, Repr

/-- A packet message has one field, the optional packet. -/
inductive Payload where
  | mqttV3Packet (packet : Option Mqttv3pb.Packet)
  | mqttV5Packet (packet : Option Mqttv5pb.Packet)
  | sessionControl (control : SessionControl)
deriving DecidableEq, Repr

structure MqttStreamMessage where
  sequenceId : UInt64
  direction : MessageDirection
  payload : Option Payload
deriving DecidableEq, Repr

def Payload.ofMqtt : MqttPacket → Payload
  | .connect3 p => .mqttV3Packet (some (.connect (.ofMqtt p)))
  | .connAck3 p => .mqttV3Packet (some (.connack (.ofMqtt p)))
  | .publish3 p => .mqttV3Packet (some (.publish (.ofMqtt p)))
  | .pubAck3 p => .mqttV3Packet (some (.puback (.ofMqtt p)))
  | .pubRec3 p => .mqttV3Packet (some (.pubrec (.ofMqtt p)))
  | .pubRel3 p => .mqttV3Packet (some (.pubrel (.ofMqtt p)))
  | .pubComp3 p => .mqttV3Packet (some (.pubcomp (.ofMqtt p)))
  | .subscribe3 p => .mqttV3Packet (some (.subscribe (.ofMqtt p)))
  | .subAck3 p => .mqttV3Packet (some (.suback (.ofMqtt p)))
  | .unsubscribe3 p => .mqttV3Packet (some (.unsubscribe (.ofMqtt p)))
  | .unsubAck3 p => .mqttV3Packet (some (.unsuback (.ofMqtt p)))
  | .pingReq3 => .mqttV3Packet (some .pingreq)
  | .pingResp3 => .mqttV3Packet (some .pingresp)
  | .disconnect3 => .mqttV3Packet (some .disconnect)
  | .connect5 p => .mqttV5Packet (some (.connect (.ofMqtt p)))
  | .connAck5 p => .mqttV5Packet (some (.connack (.ofMqtt p)))
  | .publish5 p => .mqttV5Packet (some (.publish (.ofMqtt p)))
  | .pubAck5 p => .mqttV5Packet (some (.puback (.ofMqtt p)))
  | .pubRec5 p => .mqttV5Packet (some (.pubrec (.ofMqtt p)))
  | .pubRel5 p => .mqttV5Packet (some (.pubrel (.ofMqtt p)))
  | .pubComp5 p => .mqttV5Packet (some (.pubcomp (.ofMqtt p)))
  | .subscribe5 p => .mqttV5Packet (some (.subscribe (.ofMqtt p)))
  | .subAck5 p => .mqttV5Packet (some (.suback (.ofMqtt p)))
  | .unsubscribe5 p => .mqttV5Packet (some (.unsubscribe (.ofMqtt p)))
  | .unsubAck5 p => .mqttV5Packet (some (.unsuback (.ofMqtt p)))
  | .pingReq5 => .mqttV5Packet (some .pingreq)
  | .pingResp5 => .mqttV5Packet (some .pingresp)
  | .disconnect5 p => .mqttV5Packet (some (.disconnect (.ofMqtt p)))
  | .auth p => .mqttV5Packet (some (.auth (.ofMqtt p)))

/-- `convert_mqtt_to_stream_message`, which has a payload for every packet. -/
def convertMqttToStreamMessage (packet : MqttPacket) (sequenceId : UInt64)
    (direction : MessageDirection) : Option MqttStreamMessage :=
  some ⟨sequenceId, direction, some (.ofMqtt packet)⟩

def convertStreamMessageToMqttPacket (message : MqttStreamMessage) : Option MqttPacket :=
  match message.payload with
  | some (.mqttV3Packet packet) => packet.map Mqttv3pb.Packet.toMqtt
  | some (.mqttV5Packet packet) => packet.map Mqttv5pb.Packet.toMqtt
  | _ => none

/-- A packet through the tunnel. -/
def tunnel (sequenceId : UInt64) (direction : MessageDirection) (packet : MqttPacket) :
    Option MqttPacket := do
  let message ← convertMqttToStreamMessage packet sequenceId direction
  convertStreamMessageToMqttPacket message

end MqttUnifiedPb

end FlowSdk
