/-
  FlowSdk.Serde.Validation — the field checks of the strict build.

  The strict encoder validates a packet before it writes a byte and the strict decoder
  validates the packet it has built, with the same functions. The loose build makes
  none of these checks.
-/
import FlowSdk.Serde.Packet

namespace FlowSdk

open Wire

/-! ## Topic filters -/

/-- The level loop of `validate_topic_filter`; the last level is the one nothing follows. -/
def validateLevels : List (List Char) → Except ParseError Unit
  | [] => .ok ()
  | level :: levels => do
    if '#' ∈ level then
      require (level = ['#'])
        "Multi-level wildcard (#) must be the only character in topic level"
      require (levels = [])
        "Multi-level wildcard (#) must be the last level in topic filter"
    if '+' ∈ level then
      require (level = ['+'])
        "Single-level wildcard (+) must be the only character in topic level"
    validateLevels levels

def validateTopicFilter (topicFilter : String) : Except ParseError Unit := do
  validateMqttUtf8String topicFilter
  require (topicFilter ≠ "") "Topic filter cannot be empty"
  rejectIf (strLen topicFilter > 65535) .stringTooLong
  validateLevels (topicFilter.toList.splitOn '/')

/-- `topic_filter.starts_with("$share/")`. -/
def isShared (topicFilter : String) : Bool := "$share/".toList.isPrefixOf topicFilter.toList

def validateSharedSubscription (topicFilter : String) : Except ParseError Unit :=
  if isShared topicFilter then
    -- `splitn(3, '/')`: the third part keeps its own slashes
    match topicFilter.toList.splitOn '/' with
    | _ :: shareName :: part :: parts => do
      let actual := List.intercalate ['/'] (part :: parts)
      require (¬ (shareName = [] ∨ '+' ∈ shareName ∨ '#' ∈ shareName))
        "Shared subscription ShareName cannot be empty or contain wildcards"
      require (actual ≠ []) "Shared subscription TopicFilter cannot be empty"
      validateTopicFilter (String.ofList actual)
    | _ => .error (.parseError
        "Invalid shared subscription format: must be $share/ShareName/TopicFilter")
  else .ok ()

/-! ## Single fields -/

namespace Validation

def packetId (value : UInt16) : Except ParseError Unit :=
  require (value ≠ 0) "Packet identifier cannot be zero"

def publish (qos : UInt8) (dup : Bool) (id : Option UInt16) : Except ParseError Unit := do
  require (qos ≤ 2) "PUBLISH QoS cannot exceed 2"
  require (qos ≠ 0 ∨ dup = false) "PUBLISH DUP must be zero for QoS 0"
  if qos > 0 then
    match id with
    | none => .error (.parseError "Missing packet identifier")
    | some id => packetId id
  else .ok ()

def connectFlags (flags : UInt8) : Except ParseError Unit := do
  require (flags &&& 1 = 0) "CONNECT reserved flag must be zero"
  require ((flags >>> 3) &&& 3 ≠ 3) "Will QoS cannot exceed 2"
  require (flags &&& 4 ≠ 0 ∨ flags &&& 0x38 = 0) "Will QoS and RETAIN require the Will flag"

/-- The flags each packet type allows in its first byte. -/
def fixedHeaderValid (kind flags : UInt8) : Bool :=
  if kind = 3 then
    let qos := (flags >>> 1) &&& 3
    qos ≤ 2 && (qos != 0 || flags &&& 8 == 0)
  else if kind = 6 ∨ kind = 8 ∨ kind = 10 then flags == 2
  else if 1 ≤ kind ∧ kind ≤ 15 then flags == 0
  else false

def fixedHeader (byte : UInt8) : Except ParseError Unit :=
  require (fixedHeaderValid (byte >>> 4) (byte &&& 0x0f) = true) "Invalid MQTT fixed header flags"

inductive PropertyContext where
  | connect | connAck | publish | will | subscribe | unsubscribe | ack | disconnect | auth
deriving DecidableEq, Repr

/-- The packets a property may appear in, the table of `validation::properties`. -/
def allowedIn (context : PropertyContext) : PropertyID → Bool
  | .payloadFormatIndicator | .messageExpiryInterval | .contentType | .responseTopic
  | .correlationData => context == .publish || context == .will
  | .subscriptionIdentifier => context == .publish || context == .subscribe
  | .sessionExpiryInterval => context == .connect || context == .connAck || context == .disconnect
  | .authenticationMethod | .authenticationData =>
    context == .connect || context == .connAck || context == .auth
  | .requestProblemInformation | .requestResponseInformation => context == .connect
  | .willDelayInterval => context == .will
  | .serverReference => context == .connAck || context == .disconnect
  | .reasonString =>
    context == .connAck || context == .ack || context == .disconnect || context == .auth
  | .receiveMaximum | .topicAliasMaximum | .maximumPacketSize =>
    context == .connect || context == .connAck
  | .topicAlias => context == .publish
  | .userProperty => true
  | .assignedClientIdentifier | .serverKeepAlive | .responseInformation | .maximumQoS
  | .retainAvailable | .wildcardSubscriptionAvailable | .subscriptionIdentifierAvailable
  | .sharedSubscriptionAvailable => context == .connAck

def repeatable (context : PropertyContext) (id : PropertyID) : Bool :=
  id == .userProperty || (id == .subscriptionIdentifier && context == .publish)

/-- The loop of `validation::properties`. The bit set `seen` is the list of the identifiers
met so far; the loop ends with it. -/
def propertiesLoop (context : PropertyContext) :
    Properties → List PropertyID → Except ParseError (List PropertyID)
  | [], seen => .ok seen
  | property :: properties, seen => do
    require (allowedIn context property.id = true) "Property is not allowed in this packet"
    require (repeatable context property.id = true ∨ property.id ∉ seen)
      "Duplicate singleton property"
    propertyValue property
    propertiesLoop context properties (property.id :: seen)

def properties (properties : Properties) (context : PropertyContext) : Except ParseError Unit := do
  let seen ← propertiesLoop context properties []
  if context = .connect then
    require (.authenticationData ∉ seen ∨ .authenticationMethod ∈ seen)
      "CONNECT Authentication Data requires Authentication Method"
  else .ok ()

/-- The reason codes of a packet type. -/
def allowedReasons : ControlPacketType → List UInt8
  | .connack => [0, 0x80, 0x81, 0x82, 0x83, 0x84, 0x85, 0x86, 0x87, 0x88, 0x89, 0x8a, 0x8c, 0x90,
      0x95, 0x97, 0x99, 0x9a, 0x9b, 0x9c, 0x9d, 0x9f]
  | .puback | .pubrec => [0, 0x10, 0x80, 0x83, 0x87, 0x90, 0x91, 0x97, 0x99]
  | .pubrel | .pubcomp => [0, 0x92]
  | .suback => [0, 1, 2, 0x80, 0x83, 0x87, 0x8f, 0x91, 0x97, 0x9e, 0xa1, 0xa2]
  | .unsuback => [0, 0x11, 0x80, 0x83, 0x87, 0x8f, 0x91]
  | .disconnect => [0, 4, 0x80, 0x81, 0x82, 0x83, 0x87, 0x89, 0x8b, 0x8d, 0x8e, 0x8f, 0x90, 0x93,
      0x94, 0x95, 0x96, 0x97, 0x98, 0x99, 0x9a, 0x9b, 0x9c, 0x9d, 0x9e, 0x9f, 0xa0, 0xa1, 0xa2]
  | .auth => [0, 0x18, 0x19]
  | _ => []

def reason (kind : ControlPacketType) (code : UInt8) : Except ParseError Unit :=
  require (code ∈ allowedReasons kind) "Invalid reason code for packet type"

def subscription (s : V5.TopicSubscription) : Except ParseError Unit := do
  validateTopicFilter s.topicFilter
  validateSharedSubscription s.topicFilter
  require (s.qos ≤ 2) "Subscription QoS cannot exceed 2"
  require (s.retainHandling ≤ 2) "Retain Handling cannot exceed 2"
  require (s.noLocal = false ∨ isShared s.topicFilter = false)
    "No Local is not allowed on a shared subscription"

end Validation

/-! ## Whole packets -/

namespace V5

def MqttConnect.validate (p : MqttConnect) : Except ParseError Unit := do
  validateString p.protocolName
  validateString p.clientId
  match p.username with
  | some username => validateString username
  | none => .ok ()
  match p.will with
  | some will => do
    require (will.willQos ≤ 2) "Will QoS cannot exceed 2"
    validateTopic will.willTopic
  | none => .ok ()
  Validation.properties p.properties .connect

def MqttConnAck.validate (p : MqttConnAck) : Except ParseError Unit := do
  Validation.reason .connack p.reasonCode
  Validation.properties (p.properties.getD []) .connAck
  require (p.sessionPresent = false ∨ p.reasonCode = 0) "Failed CONNACK cannot set Session Present"

def MqttPublish.validate (p : MqttPublish) : Except ParseError Unit := do
  Validation.publish p.qos p.dup p.packetId
  Validation.properties p.properties .publish
  if p.topicName = "" then
    require (∃ prop ∈ p.properties, prop.id = .topicAlias) "Empty topic requires a Topic Alias"
  else validateTopic p.topicName

def PacketIdAck.validate (kind : ControlPacketType) (p : PacketIdAck) : Except ParseError Unit := do
  Validation.packetId p.packetId
  Validation.reason kind p.reasonCode
  Validation.properties p.properties .ack

def MqttSubscribe.validate (p : MqttSubscribe) : Except ParseError Unit := do
  Validation.packetId p.packetId
  require (p.subscriptions ≠ []) "SUBSCRIBE must contain a subscription"
  Validation.properties p.properties .subscribe
  forEach Validation.subscription p.subscriptions

def MqttSubAck.validate (p : MqttSubAck) : Except ParseError Unit := do
  Validation.packetId p.packetId
  require (p.reasonCodes ≠ []) "SUBACK must contain a reason code"
  Validation.properties p.properties .ack
  forEach (Validation.reason .suback) p.reasonCodes

def MqttUnsubscribe.validate (p : MqttUnsubscribe) : Except ParseError Unit := do
  Validation.packetId p.packetId
  require (p.topicFilters ≠ []) "UNSUBSCRIBE must contain a topic filter"
  Validation.properties p.properties .unsubscribe
  forEach (fun filter => do
    validateTopicFilter filter
    validateSharedSubscription filter) p.topicFilters

def MqttUnsubAck.validate (p : MqttUnsubAck) : Except ParseError Unit := do
  Validation.packetId p.packetId
  require (p.reasonCodes ≠ []) "UNSUBACK must contain a reason code"
  Validation.properties p.properties .ack
  forEach (Validation.reason .unsuback) p.reasonCodes

def MqttDisconnect.validate (p : MqttDisconnect) : Except ParseError Unit := do
  Validation.reason .disconnect p.reasonCode
  Validation.properties p.properties .disconnect

def MqttAuth.validate (p : MqttAuth) : Except ParseError Unit := do
  Validation.reason .auth p.reasonCode
  Validation.properties p.properties .auth

end V5

namespace V3

def MqttConnect.validate (p : MqttConnect) : Except ParseError Unit := do
  validateString p.protocolName
  validateString p.clientId
  match p.username with
  | some username => validateString username
  | none => .ok ()
  match p.will with
  | some will => do
    require (will.qos ≤ 2) "Will QoS cannot exceed 2"
    validateTopic will.topic
  | none => .ok ()

def MqttConnAck.validate (p : MqttConnAck) : Except ParseError Unit := do
  require (p.returnCode ≤ 5) "Invalid CONNACK return code"
  require (p.sessionPresent = false ∨ p.returnCode = 0) "Failed CONNACK cannot set Session Present"

def MqttPublish.validate (p : MqttPublish) : Except ParseError Unit := do
  Validation.publish p.qos p.dup p.messageId
  validateTopic p.topicName

def PacketIdAck.validate (p : PacketIdAck) : Except ParseError Unit := Validation.packetId p.messageId

def MqttSubscribe.validate (p : MqttSubscribe) : Except ParseError Unit := do
  Validation.packetId p.messageId
  require (p.subscriptions ≠ []) "SUBSCRIBE must contain a subscription"
  forEach (fun sub => do
    validateTopicFilter sub.topicFilter
    require (sub.qos ≤ 2) "Subscription QoS cannot exceed 2") p.subscriptions

/-- `matches!(code, 0 | 1 | 2 | 0x80)`. -/
def subAckCode (code : UInt8) : Prop := code = 0 ∨ code = 1 ∨ code = 2 ∨ code = 0x80

instance (code : UInt8) : Decidable (subAckCode code) := by
  unfold subAckCode; infer_instance

def MqttSubAck.validate (p : MqttSubAck) : Except ParseError Unit := do
  Validation.packetId p.messageId
  require (p.returnCodes ≠ []) "SUBACK must contain a reason code"
  forEach (fun code => require (subAckCode code) "Invalid SUBACK return code") p.returnCodes

def MqttUnsubscribe.validate (p : MqttUnsubscribe) : Except ParseError Unit := do
  Validation.packetId p.messageId
  require (p.topicFilters ≠ []) "UNSUBSCRIBE must contain a topic filter"
  forEach validateTopicFilter p.topicFilters

end V3

/-- The check of the strict build; the packets without fields have none. -/
def MqttPacket.validateStrict : MqttPacket → Except ParseError Unit
  | .connect5 p => p.validate
  | .connAck5 p => p.validate
  | .publish5 p => p.validate
  | .pubAck5 p => p.validate .puback
  | .pubRec5 p => p.validate .pubrec
  | .pubRel5 p => p.validate .pubrel
  | .pubComp5 p => p.validate .pubcomp
  | .subscribe5 p => p.validate
  | .subAck5 p => p.validate
  | .unsubscribe5 p => p.validate
  | .unsubAck5 p => p.validate
  | .disconnect5 p => p.validate
  | .auth p => p.validate
  | .connect3 p => p.validate
  | .connAck3 p => p.validate
  | .publish3 p => p.validate
  | .pubAck3 p | .pubRec3 p | .pubRel3 p | .pubComp3 p | .unsubAck3 p => p.validate
  | .subscribe3 p => p.validate
  | .subAck3 p => p.validate
  | .unsubscribe3 p => p.validate
  | .pingReq5 | .pingResp5 | .pingReq3 | .pingResp3 | .disconnect3 => .ok ()

def MqttPacket.validate (strict : Bool) (p : MqttPacket) : Except ParseError Unit :=
  onlyIf strict p.validateStrict

end FlowSdk
