/-
  FlowSdk.Serde.Leveled — the leveled parser (`parser/leveled.rs`).

  Level 0 decodes a packet into its typed structure. The other three levels look at less of
  the frame: the variable header, the fixed header, or the packet type alone. All of them
  first need the length of the frame, which `packetFrameLen` reads from the fixed header.
-/
import FlowSdk.Serde.Decode

namespace FlowSdk

open Wire

/-- How deeply incoming packets are interpreted. -/
inductive ParseLevel where
  | full
  | headersParsed
  | rawBody
  | typeOnly
deriving DecidableEq, Repr

/-- Level 3: the type and the flags. -/
structure TypeOnlyPacket where
  packetType : ControlPacketType
  flags : UInt8
deriving DecidableEq, Repr

/-- Level 2: the fixed header, and everything behind it unread. -/
structure RawBodyPacket where
  packetType : ControlPacketType
  flags : UInt8
  remaining : Bytes
deriving DecidableEq, Repr

/-- The variable header fields of level 1. -/
inductive VariableHeader where
  | connectV5 (protocolName : String) (protocolVersion : UInt8) (cleanStart : Bool)
      (keepAlive : UInt16) (connectFlags : UInt8) (properties : Properties)
  | connAckV5 (sessionPresent : Bool) (reasonCode : UInt8) (properties : Option Properties)
  | publishV5 (topicName : String) (qos : UInt8) (dup retain : Bool) (packetId : Option UInt16)
      (properties : Properties)
  | pubAckV5 (packetId : UInt16) (reasonCode : UInt8) (properties : Properties)
  | pubRecV5 (packetId : UInt16) (reasonCode : UInt8) (properties : Properties)
  | pubRelV5 (packetId : UInt16) (reasonCode : UInt8) (properties : Properties)
  | pubCompV5 (packetId : UInt16) (reasonCode : UInt8) (properties : Properties)
  | subscribeV5 (packetId : UInt16) (properties : Properties)
  | subAckV5 (packetId : UInt16) (properties : Properties)
  | unsubscribeV5 (packetId : UInt16) (properties : Properties)
  | unsubAckV5 (packetId : UInt16) (properties : Properties)
  | disconnectV5 (reasonCode : UInt8) (properties : Properties)
  | authV5 (reasonCode : UInt8) (properties : Properties)
  | connectV3 (protocolName : String) (protocolVersion : UInt8) (cleanSession : Bool)
      (keepAlive : UInt16) (connectFlags : UInt8)
  | connAckV3 (sessionPresent : Bool) (returnCode : UInt8)
  | publishV3 (topicName : String) (qos : UInt8) (dup retain : Bool) (messageId : Option UInt16)
  | packetIdOnlyV3 (messageId : UInt16)
  | empty
deriving DecidableEq, Repr

/-- Level 1: the variable header parsed, the payload unread. -/
structure HeadersParsedPacket where
  packetType : ControlPacketType
  flags : UInt8
  mqttVersion : UInt8
  variableHeader : VariableHeader
  rawPayload : Bytes
deriving DecidableEq, Repr

inductive ParsedPacket where
  | full (p : MqttPacket)
  | headersParsed (p : HeadersParsedPacket)
  | rawBody (p : RawBodyPacket)
  | typeOnly (p : TypeOnlyPacket)
deriving DecidableEq, Repr

inductive LeveledParseOk where
  | continue (hint consumed : Nat)
  | packet (p : ParsedPacket) (consumed : Nat)
deriving DecidableEq, Repr

/-! ## The length of a frame -/

/-- The length of the first frame of the buffer once all of it is there. -/
def packetFrameLen (strict : Bool) (buffer : Bytes) : Decode (Option Nat) :=
  if buffer.length < 2 then .ok none
  else
    match parseRemainingLength strict (buffer.drop 1) with
    | .ok (remainingLen, vbiBytes) =>
      let total := 1 + vbiBytes + remainingLen
      if buffer.length < total then .ok none else .ok (some total)
    | .error (.err (.more _ _)) => .ok none
    | .error e => .error e

/-- What the parsers of levels 1 to 3 do first: read the type and the length and wait for
the end of the frame. The rest gets the type, the flags, the offset behind the fixed header
and the remaining length. -/
def withLeveledFrame (strict : Bool) (buffer : Bytes)
    (body : ControlPacketType → UInt8 → Nat → Nat → Decode ParsedPacket) :
    Decode LeveledParseOk :=
  match buffer with
  | [] => Decode.fail .bufferEmpty
  | first :: rest => do
    let (pktType, flags) ← Decode.check (ControlPacketType.fromFirstByte first)
    if rest = [] then return .continue 1 0
    else
      match parseRemainingLength strict rest with
      | .ok (remainingLen, vbiBytes) =>
        let fixedHdrLen := 1 + vbiBytes
        let totalLen := fixedHdrLen + remainingLen
        if buffer.length < totalLen then return .continue (totalLen - buffer.length) 0
        else do
          let packet ← body pktType flags fixedHdrLen remainingLen
          return .packet packet totalLen
      | .error (.err (.more n _)) => return .continue n 0
      | .error e => .error e

/-! ## Levels 3 and 2 -/

def parseTypeOnly (strict : Bool) (buffer : Bytes) : Decode LeveledParseOk :=
  withLeveledFrame strict buffer fun packetType flags _ _ =>
    .ok (.typeOnly { packetType, flags })

/-- `into_range`, which panics when the range starts behind the end of what it keeps. -/
def intoRange (payload : Bytes) (start stop : Nat) : Decode Bytes :=
  let kept := payload.take stop
  if start ≤ kept.length then .ok (kept.drop start) else Decode.panic .slice

def parseRawBody (strict : Bool) (buffer : Bytes) : Decode LeveledParseOk :=
  withLeveledFrame strict buffer fun packetType flags remainingStart remainingLen => do
    let remaining ← intoRange buffer remainingStart (remainingStart + remainingLen)
    return .rawBody { packetType, flags, remaining }

/-! ## Level 1, the variable headers -/

def parsePacketIdRaw : Bytes → Decode (UInt16 × Nat)
  | a :: b :: _ => .ok (u16FromBeBytes a b, 2)
  | _ => Decode.fail .bufferTooShort

/-- The identifier of a PUBLISH above QoS 0, with the offset behind it. -/
def parsePublishIdRaw (qos : UInt8) (body : Bytes) (offset : Nat) :
    Decode (Option UInt16 × Nat) :=
  if qos > 0 then do
    let (id, consumed) ← parsePacketIdRaw (← indexFrom body offset)
    return (some id, offset + consumed)
  else .ok (none, offset)

def parsePublishHeaderV5 (strict : Bool) (flags : UInt8) (body : Bytes) :
    Decode (VariableHeader × Nat) := do
  let dup : Bool := flags &&& 0x08 ≠ 0
  let qos := (flags &&& 0x06) >>> 1
  let retain : Bool := flags &&& 0x01 ≠ 0
  let (topicName, offset) ← parseUtf8String strict (← getFrom body 0)
  let (packetId, offset) ← parsePublishIdRaw qos body offset
  let (properties, consumed) ← parsePropertiesHdr strict (← getFrom body offset)
  return (.publishV5 topicName qos dup retain packetId properties, offset + consumed)

/-- The keep alive of a CONNECT, tested against the end of the body before it is indexed. -/
def parseKeepAlive (body : Bytes) (offset : Nat) : Decode UInt16 := do
  rejectIf (body.length < offset + 2) (.err .bufferTooShort)
  indexU16 body offset

def parseConnectHeaderV5 (strict : Bool) (body : Bytes) : Decode (VariableHeader × Nat) := do
  let (protocolName, offset) ← parseUtf8String strict body
  let protocolVersion ← getByte body offset
  let offset := offset + 1
  let connectFlags ← getByte body offset
  let offset := offset + 1
  let keepAlive ← parseKeepAlive body offset
  let offset := offset + 2
  let (properties, consumed) ← parsePropertiesHdr strict (← getFrom body offset)
  return (.connectV5 protocolName protocolVersion (connectFlags &&& 0x02 ≠ 0) keepAlive
    connectFlags properties, offset + consumed)

def parseConnackHeaderV5 (strict : Bool) (body : Bytes) : Decode (VariableHeader × Nat) := do
  rejectIf (body.length < 2) (.err .bufferTooShort)
  let flags ← Decode.index body[0]?
  let reasonCode ← Decode.index body[1]?
  let (props, consumed) ← parsePropertiesHdr strict (← getFrom body 2)
  return (.connAckV5 (flags &&& 0x01 ≠ 0) reasonCode (if props = [] then none else some props),
    2 + consumed)

/-- SUBSCRIBE, SUBACK, UNSUBSCRIBE and UNSUBACK: an identifier and properties. -/
def parseIdAndProperties (mk : UInt16 → Properties → VariableHeader) (strict : Bool)
    (body : Bytes) : Decode (VariableHeader × Nat) := do
  let (packetId, offset) ← parsePacketIdRaw body
  let (properties, consumed) ← parsePropertiesHdr strict (← getFrom body offset)
  return (mk packetId properties, offset + consumed)

def parseSubscribeHeaderV5 : Bool → Bytes → Decode (VariableHeader × Nat) :=
  parseIdAndProperties .subscribeV5

def parseSubackHeaderV5 : Bool → Bytes → Decode (VariableHeader × Nat) :=
  parseIdAndProperties .subAckV5

def parseUnsubscribeHeaderV5 : Bool → Bytes → Decode (VariableHeader × Nat) :=
  parseIdAndProperties .unsubscribeV5

def parseUnsubackHeaderV5 : Bool → Bytes → Decode (VariableHeader × Nat) :=
  parseIdAndProperties .unsubAckV5

/-- The properties behind a reason code, which may be left out. -/
def parseTrailingProperties (strict : Bool) (body : Bytes) (offset : Nat) :
    Decode (Properties × Nat) :=
  if body.length > offset then do
    let (props, consumed) ← parsePropertiesHdr strict (← indexFrom body offset)
    return (props, offset + consumed)
  else .ok ([], offset)

/-- The reason code and the properties of an acknowledgement, both of which may be left out. -/
def parseReasonAndProperties (strict : Bool) (body : Bytes) (offset : Nat) :
    Decode (UInt8 × Properties × Nat) :=
  if body.length > offset then do
    let reasonCode ← Decode.index body[offset]?
    let (properties, offset) ← parseTrailingProperties strict body (offset + 1)
    return (reasonCode, properties, offset)
  else .ok (0x00, [], offset)

/-- PUBACK, PUBREC, PUBREL and PUBCOMP. -/
def parseAckWithPropsV5 (strict : Bool) (body : Bytes)
    (kind : UInt16 → UInt8 → Properties → VariableHeader) : Decode (VariableHeader × Nat) := do
  let (packetId, offset) ← parsePacketIdRaw body
  let (reasonCode, properties, offset) ← parseReasonAndProperties strict body offset
  return (kind packetId reasonCode properties, offset)

/-- DISCONNECT and AUTH, which are empty when the remaining length is zero. -/
def parseReasonHeader (mk : UInt8 → Properties → VariableHeader) (strict : Bool) (body : Bytes)
    (remainingLen : Nat) : Decode (VariableHeader × Nat) :=
  if remainingLen = 0 then .ok (mk 0x00 [], 0)
  else do
    let reasonCode ← Decode.index body[0]?
    let (properties, offset) ← parseTrailingProperties strict body 1
    return (mk reasonCode properties, offset)

def parseDisconnectHeaderV5 : Bool → Bytes → Nat → Decode (VariableHeader × Nat) :=
  parseReasonHeader .disconnectV5

def parseAuthHeaderV5 : Bool → Bytes → Nat → Decode (VariableHeader × Nat) :=
  parseReasonHeader .authV5

def parsePublishHeaderV3 (strict : Bool) (flags : UInt8) (body : Bytes) :
    Decode (VariableHeader × Nat) := do
  let dup : Bool := flags &&& 0x08 ≠ 0
  let qos := (flags &&& 0x06) >>> 1
  let retain : Bool := flags &&& 0x01 ≠ 0
  let (topicName, offset) ← parseUtf8String strict body
  let (messageId, offset) ← parsePublishIdRaw qos body offset
  return (.publishV3 topicName qos dup retain messageId, offset)

def parseConnectHeaderV3 (strict : Bool) (body : Bytes) : Decode (VariableHeader × Nat) := do
  let (protocolName, offset) ← parseUtf8String strict body
  let protocolVersion ← getByte body offset
  let offset := offset + 1
  let connectFlags ← getByte body offset
  let offset := offset + 1
  let keepAlive ← parseKeepAlive body offset
  return (.connectV3 protocolName protocolVersion (connectFlags &&& 0x02 ≠ 0) keepAlive
    connectFlags, offset + 2)

def parseConnackHeaderV3 (body : Bytes) : Decode (VariableHeader × Nat) := do
  rejectIf (body.length < 2) (.err .bufferTooShort)
  let flags ← Decode.index body[0]?
  let returnCode ← Decode.index body[1]?
  return (.connAckV3 (flags &&& 0x01 ≠ 0) returnCode, 2)

def parsePacketIdOnlyV3 (body : Bytes) : Decode (VariableHeader × Nat) := do
  let (id, consumed) ← parsePacketIdRaw body
  return (.packetIdOnlyV3 id, consumed)

/-- The `match` of `parse_headers_only_v5`. -/
def variableHeaderV5 (strict : Bool) (pktType : ControlPacketType) (flags : UInt8) (body : Bytes)
    (remainingLen : Nat) : Decode (VariableHeader × Nat) :=
  match pktType with
  | .publish => parsePublishHeaderV5 strict flags body
  | .connect => parseConnectHeaderV5 strict body
  | .connack => parseConnackHeaderV5 strict body
  | .subscribe => parseSubscribeHeaderV5 strict body
  | .suback => parseSubackHeaderV5 strict body
  | .unsubscribe => parseUnsubscribeHeaderV5 strict body
  | .unsuback => parseUnsubackHeaderV5 strict body
  | .puback => parseAckWithPropsV5 strict body .pubAckV5
  | .pubrec => parseAckWithPropsV5 strict body .pubRecV5
  | .pubrel => parseAckWithPropsV5 strict body .pubRelV5
  | .pubcomp => parseAckWithPropsV5 strict body .pubCompV5
  | .disconnect => parseDisconnectHeaderV5 strict body remainingLen
  | .auth => parseAuthHeaderV5 strict body remainingLen
  | .pingreq | .pingresp => .ok (.empty, 0)

/-- The `match` of `parse_headers_only_v3`. -/
def variableHeaderV3 (strict : Bool) (pktType : ControlPacketType) (flags : UInt8)
    (body : Bytes) : Decode (VariableHeader × Nat) :=
  match pktType with
  | .publish => parsePublishHeaderV3 strict flags body
  | .connect => parseConnectHeaderV3 strict body
  | .connack => parseConnackHeaderV3 body
  | .puback | .pubrec | .pubrel | .pubcomp | .unsuback => parsePacketIdOnlyV3 body
  | .subscribe | .suback | .unsubscribe => parsePacketIdOnlyV3 body
  | .pingreq | .pingresp | .disconnect => .ok (.empty, 0)
  | .auth => Decode.fail (.parseError "AUTH packet is not supported in MQTT v3")

def parseHeadersOnlyV5 (strict : Bool) (buffer : Bytes) : Decode LeveledParseOk :=
  withLeveledFrame strict buffer fun packetType flags fixedHdrLen remainingLen => do
    let totalLen := fixedHdrLen + remainingLen
    let body ← indexRange buffer fixedHdrLen totalLen
    let (variableHeader, consumed) ← variableHeaderV5 strict packetType flags body remainingLen
    let rawPayload ← intoRange buffer (fixedHdrLen + consumed) totalLen
    return .headersParsed { packetType, flags, mqttVersion := 5, variableHeader, rawPayload }

def parseHeadersOnlyV3 (strict : Bool) (buffer : Bytes) : Decode LeveledParseOk :=
  withLeveledFrame strict buffer fun packetType flags fixedHdrLen remainingLen => do
    let totalLen := fixedHdrLen + remainingLen
    let body ← indexRange buffer fixedHdrLen totalLen
    let (variableHeader, consumed) ← variableHeaderV3 strict packetType flags body
    let rawPayload ← intoRange buffer (fixedHdrLen + consumed) totalLen
    return .headersParsed { packetType, flags, mqttVersion := 4, variableHeader, rawPayload }

def parseHeadersOnly (strict : Bool) (buffer : Bytes) (mqttVersion : UInt8) :
    Decode LeveledParseOk :=
  match mqttVersion with
  | 3 | 4 => parseHeadersOnlyV3 strict buffer
  | 5 => parseHeadersOnlyV5 strict buffer
  | _ => Decode.fail .invalidPacketType

end FlowSdk
