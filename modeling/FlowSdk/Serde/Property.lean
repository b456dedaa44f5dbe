/-
  FlowSdk.Serde.Property — the MQTT 5 property section.

  A property is an identifier byte followed by a value in one of seven formats. The
  section on the wire is the length of the body as a variable byte integer, then the
  properties one after the other; the parser loops until the body is used up.

  Main results:
    1. `parseProperty_reads`        one property is read back from its own bytes
    2. `parsePropertiesHdr_reads`   a whole section is read back, in order
    3. `PropertyEncoder.encodedLen_eq` the size the encoder announces is the size it writes
-/
import FlowSdk.Serde.Varint

namespace FlowSdk

open Wire

/-! ## Identifiers and values -/

inductive PropertyID where
  | payloadFormatIndicator
  | messageExpiryInterval
  | contentType
  | responseTopic
  | correlationData
  | subscriptionIdentifier
  | sessionExpiryInterval
  | assignedClientIdentifier
  | serverKeepAlive
  | authenticationMethod
  | authenticationData
  | requestProblemInformation
  | willDelayInterval
  | requestResponseInformation
  | responseInformation
  | serverReference
  | reasonString
  | receiveMaximum
  | topicAliasMaximum
  | topicAlias
  | maximumQoS
  | retainAvailable
  | userProperty
  | maximumPacketSize
  | wildcardSubscriptionAvailable
  | subscriptionIdentifierAvailable
  | sharedSubscriptionAvailable
deriving DecidableEq, Repr

inductive Property where
  | payloadFormatIndicator (val : UInt8)
  | messageExpiryInterval (val : UInt32)
  | contentType (val : String)
  | responseTopic (val : String)
  | correlationData (val : Bytes)
  | subscriptionIdentifier (val : UInt32)
  | sessionExpiryInterval (val : UInt32)
  | assignedClientIdentifier (val : String)
  | serverKeepAlive (val : UInt16)
  | authenticationMethod (val : String)
  | authenticationData (val : Bytes)
  | requestProblemInformation (val : UInt8)
  | willDelayInterval (val : UInt32)
  | requestResponseInformation (val : UInt8)
  | responseInformation (val : String)
  | serverReference (val : String)
  | reasonString (val : String)
  | receiveMaximum (val : UInt16)
  | topicAliasMaximum (val : UInt16)
  | topicAlias (val : UInt16)
  | maximumQoS (val : UInt8)
  | retainAvailable (val : UInt8)
  | userProperty (key val : String)
  | maximumPacketSize (val : UInt32)
  | wildcardSubscriptionAvailable (val : UInt8)
  | subscriptionIdentifierAvailable (val : UInt8)
  | sharedSubscriptionAvailable (val : UInt8)
deriving DecidableEq, Repr

abbrev Properties := List Property

/-- The discriminant of `PropertyID`, written as one byte (`property_id`). -/
def PropertyID.code : PropertyID → UInt8
  | .payloadFormatIndicator => 0x01
  | .messageExpiryInterval => 0x02
  | .contentType => 0x03
  | .responseTopic => 0x08
  | .correlationData => 0x09
  | .subscriptionIdentifier => 0x0b
  | .sessionExpiryInterval => 0x11
  | .assignedClientIdentifier => 0x12
  | .serverKeepAlive => 0x13
  | .authenticationMethod => 0x15
  | .authenticationData => 0x16
  | .requestProblemInformation => 0x17
  | .willDelayInterval => 0x18
  | .requestResponseInformation => 0x19
  | .responseInformation => 0x1a
  | .serverReference => 0x1c
  | .reasonString => 0x1f
  | .receiveMaximum => 0x21
  | .topicAliasMaximum => 0x22
  | .topicAlias => 0x23
  | .maximumQoS => 0x24
  | .retainAvailable => 0x25
  | .userProperty => 0x26
  | .maximumPacketSize => 0x27
  | .wildcardSubscriptionAvailable => 0x28
  | .subscriptionIdentifierAvailable => 0x29
  | .sharedSubscriptionAvailable => 0x2a

/-- `TryFrom<usize> for PropertyID`. -/
def PropertyID.tryFrom (value : Nat) : Except ParseError PropertyID :=
  match value with
  | 0x01 => .ok .payloadFormatIndicator
  | 0x02 => .ok .messageExpiryInterval
  | 0x03 => .ok .contentType
  | 0x08 => .ok .responseTopic
  | 0x09 => .ok .correlationData
  | 0x0b => .ok .subscriptionIdentifier
  | 0x11 => .ok .sessionExpiryInterval
  | 0x12 => .ok .assignedClientIdentifier
  | 0x13 => .ok .serverKeepAlive
  | 0x15 => .ok .authenticationMethod
  | 0x16 => .ok .authenticationData
  | 0x17 => .ok .requestProblemInformation
  | 0x18 => .ok .willDelayInterval
  | 0x19 => .ok .requestResponseInformation
  | 0x1a => .ok .responseInformation
  | 0x1c => .ok .serverReference
  | 0x1f => .ok .reasonString
  | 0x21 => .ok .receiveMaximum
  | 0x22 => .ok .topicAliasMaximum
  | 0x23 => .ok .topicAlias
  | 0x24 => .ok .maximumQoS
  | 0x25 => .ok .retainAvailable
  | 0x26 => .ok .userProperty
  | 0x27 => .ok .maximumPacketSize
  | 0x28 => .ok .wildcardSubscriptionAvailable
  | 0x29 => .ok .subscriptionIdentifierAvailable
  | 0x2a => .ok .sharedSubscriptionAvailable
  | _ => .error .invalidPropertyId

/-- The identifier of a property, which is also its `mem::discriminant`. -/
def Property.id : Property → PropertyID
  | .payloadFormatIndicator .. => .payloadFormatIndicator
  | .messageExpiryInterval .. => .messageExpiryInterval
  | .contentType .. => .contentType
  | .responseTopic .. => .responseTopic
  | .correlationData .. => .correlationData
  | .subscriptionIdentifier .. => .subscriptionIdentifier
  | .sessionExpiryInterval .. => .sessionExpiryInterval
  | .assignedClientIdentifier .. => .assignedClientIdentifier
  | .serverKeepAlive .. => .serverKeepAlive
  | .authenticationMethod .. => .authenticationMethod
  | .authenticationData .. => .authenticationData
  | .requestProblemInformation .. => .requestProblemInformation
  | .willDelayInterval .. => .willDelayInterval
  | .requestResponseInformation .. => .requestResponseInformation
  | .responseInformation .. => .responseInformation
  | .serverReference .. => .serverReference
  | .reasonString .. => .reasonString
  | .receiveMaximum .. => .receiveMaximum
  | .topicAliasMaximum .. => .topicAliasMaximum
  | .topicAlias .. => .topicAlias
  | .maximumQoS .. => .maximumQoS
  | .retainAvailable .. => .retainAvailable
  | .userProperty .. => .userProperty
  | .maximumPacketSize .. => .maximumPacketSize
  | .wildcardSubscriptionAvailable .. => .wildcardSubscriptionAvailable
  | .subscriptionIdentifierAvailable .. => .subscriptionIdentifierAvailable
  | .sharedSubscriptionAvailable .. => .sharedSubscriptionAvailable

/-! ## Checks of a single value -/

/-- `validation::require`. -/
def require (valid : Prop) [Decidable valid] (message : String) : Except ParseError Unit :=
  if valid then .ok () else .error (.parseError message)

theorem require_eq_ok {valid : Prop} [Decidable valid] {message : String} {u : Unit} :
    require valid message = .ok u ↔ valid := by
  unfold require
  split <;> simp_all

/-- `validation::string`. -/
def validateString (value : String) : Except ParseError Unit := do
  rejectIf (strLen value > u16Max) .stringTooLong
  validateMqttUtf8String value

/-- `validation::topic`. -/
def validateTopic (value : String) : Except ParseError Unit := do
  validateString value
  require (value ≠ "") "Topic name cannot be empty"
  require (¬ ('+' ∈ value.toList ∨ '#' ∈ value.toList)) "Topic name cannot contain wildcards"

/-- `validation::property_value`. -/
def propertyValue : Property → Except ParseError Unit
  | .payloadFormatIndicator v | .requestProblemInformation v | .requestResponseInformation v
  | .maximumQoS v | .retainAvailable v | .wildcardSubscriptionAvailable v
  | .subscriptionIdentifierAvailable v | .sharedSubscriptionAvailable v =>
    require (v ≤ 1) "Property value must be 0 or 1"
  | .receiveMaximum v | .topicAlias v => require (v ≠ 0) "Property value cannot be zero"
  | .maximumPacketSize v => require (v ≠ 0) "Maximum Packet Size cannot be zero"
  | .subscriptionIdentifier v =>
    require (1 ≤ v.toNat ∧ v.toNat ≤ 268435455) "Invalid Subscription Identifier"
  | .responseTopic v => validateTopic v
  | .assignedClientIdentifier v => do
    validateString v
    require (v ≠ "") "Assigned Client Identifier cannot be empty"
  | .contentType v | .authenticationMethod v | .responseInformation v | .serverReference v
  | .reasonString v => validateString v
  | .userProperty k v => do
    validateString k
    validateString v
  | .correlationData v | .authenticationData v => rejectIf (v.length > u16Max) .stringTooLong
  | .messageExpiryInterval _ | .sessionExpiryInterval _ | .serverKeepAlive _
  | .willDelayInterval _ | .topicAliasMaximum _ => .ok ()

theorem validateString_eq_ok {value : String} {u : Unit} :
    validateString value = .ok u ↔
      strLen value ≤ u16Max ∧ validateMqttUtf8String value = .ok () := by
  simp [validateString, check_bind_eq_ok, rejectIf_eq_ok]

theorem validateTopic_eq_ok {value : String} {u : Unit} :
    validateTopic value = .ok u ↔
      (strLen value ≤ u16Max ∧ validateMqttUtf8String value = .ok ()) ∧ value ≠ "" ∧
        ¬ ('+' ∈ value.toList ∨ '#' ∈ value.toList) := by
  simp only [validateTopic, check_bind_eq_ok, validateString_eq_ok, require_eq_ok]

/-! ## Encoding -/

/-- `binary_len`, the wire limit that holds in every build. -/
def binaryLen (len : Nat) : Except ParseError Nat :=
  if len > u16Max then .error .stringTooLong else .ok (2 + len)

/-- The length of the value alone, the `match` of `encoded_len`. -/
def Property.valueLen : Property → Except ParseError Nat
  | .payloadFormatIndicator _ | .requestProblemInformation _ | .requestResponseInformation _
  | .maximumQoS _ | .retainAvailable _ | .wildcardSubscriptionAvailable _
  | .subscriptionIdentifierAvailable _ | .sharedSubscriptionAvailable _ => .ok 1
  | .serverKeepAlive _ | .receiveMaximum _ | .topicAliasMaximum _ | .topicAlias _ => .ok 2
  | .messageExpiryInterval _ | .sessionExpiryInterval _ | .willDelayInterval _
  | .maximumPacketSize _ => .ok 4
  | .subscriptionIdentifier val => .ok (VariableByteInteger.encodedLen val)
  | .contentType val | .responseTopic val | .assignedClientIdentifier val
  | .authenticationMethod val | .responseInformation val | .serverReference val
  | .reasonString val => binaryLen (strLen val)
  | .correlationData val | .authenticationData val => binaryLen val.length
  | .userProperty key val => do
    let k ← binaryLen (strLen key)
    let v ← binaryLen (strLen val)
    return k + v

def Property.encodedLen (strict : Bool) (p : Property) : Except ParseError Nat := do
  onlyIf strict (propertyValue p)
  let valueLen ← p.valueLen
  return 1 + valueLen

/-- The bytes after the identifier, the arms of `encode_validated`. -/
def Property.encodeValue : Property → Bytes
  | .payloadFormatIndicator val => [val]
  | .messageExpiryInterval val => FourByteInteger.encode val
  | .contentType val => BinaryData.encode (strBytes val)
  | .responseTopic val => BinaryData.encode (strBytes val)
  | .correlationData val => BinaryData.encode val
  | .subscriptionIdentifier val => VariableByteInteger.encode val
  | .sessionExpiryInterval val => FourByteInteger.encode val
  | .assignedClientIdentifier val => BinaryData.encode (strBytes val)
  | .serverKeepAlive val => TwoByteInteger.encode val
  | .authenticationMethod val => BinaryData.encode (strBytes val)
  | .authenticationData val => BinaryData.encode val
  | .requestProblemInformation val => [val]
  | .willDelayInterval val => FourByteInteger.encode val
  | .requestResponseInformation val => [val]
  | .responseInformation val => BinaryData.encode (strBytes val)
  | .serverReference val => BinaryData.encode (strBytes val)
  | .reasonString val => BinaryData.encode (strBytes val)
  | .receiveMaximum val => TwoByteInteger.encode val
  | .topicAliasMaximum val => TwoByteInteger.encode val
  | .topicAlias val => TwoByteInteger.encode val
  | .maximumQoS val => [val]
  | .retainAvailable val => [val]
  | .userProperty key val => BinaryData.encode (strBytes key) ++ BinaryData.encode (strBytes val)
  | .maximumPacketSize val => FourByteInteger.encode val
  | .wildcardSubscriptionAvailable val => [val]
  | .subscriptionIdentifierAvailable val => [val]
  | .sharedSubscriptionAvailable val => [val]

def Property.encodeValidated (p : Property) : Bytes := p.id.code :: p.encodeValue

/-- The validated section: the properties and the length of their bytes. -/
structure PropertyEncoder where
  properties : Properties
  bodyLen : Nat

namespace PropertyEncoder

/-- The `for` loop of `PropertyEncoder::new`. -/
def bodyLenLoop (strict : Bool) : Properties → Nat → Except ParseError Nat
  | [], bodyLen => .ok bodyLen
  | p :: ps, bodyLen => do
    let len ← p.encodedLen strict
    bodyLenLoop strict ps (bodyLen + len)

def new (strict : Bool) (properties : Properties) : Except ParseError PropertyEncoder := do
  let bodyLen ← bodyLenLoop strict properties 0
  return ⟨properties, bodyLen⟩

def encodedLen (e : PropertyEncoder) : Nat :=
  VariableByteInteger.encodedLen (UInt32.ofNat e.bodyLen) + e.bodyLen

def encodeInto (e : PropertyEncoder) : Bytes :=
  VariableByteInteger.encode (UInt32.ofNat e.bodyLen) ++
    e.properties.flatMap Property.encodeValidated

end PropertyEncoder

def encodeProperitiesHdr (strict : Bool) (properties : Properties) : Except ParseError Bytes := do
  let e ← PropertyEncoder.new strict properties
  return e.encodeInto

/-! ## Parsing -/

section Values

variable (strict : Bool) (buffer : Bytes) (offset : Nat)

/-- A property of one byte. -/
def byteValue (mk : UInt8 → Property) : Decode (Property × Nat) := do
  let val ← Decode.okOr .incompleteProperty buffer[offset]?
  return (mk val, offset + 1)

/-- A property of two bytes; `copy_from_slice` panics on any other length. -/
def twoByteValue (mk : UInt16 → Property) : Decode (Property × Nat) := do
  let slice ← Decode.okOr .incompleteProperty (sliceRange buffer offset (offset + 2))
  match slice with
  | [a, b] => return (mk (u16FromBeBytes a b), offset + 2)
  | _ => Decode.panic .slice

def fourByteValue (mk : UInt32 → Property) : Decode (Property × Nat) := do
  let slice ← Decode.okOr .incompleteProperty (sliceRange buffer offset (offset + 4))
  match slice with
  | [a, b, c, d] => return (mk (u32FromBeBytes a b c d), offset + 4)
  | _ => Decode.panic .slice

def vbiValue (mk : UInt32 → Property) : Decode (Property × Nat) := do
  let (val, consumed) ← parseVbi strict (← Decode.index (sliceFrom buffer offset))
  return (mk (UInt32.ofNat val), offset + consumed)

def textValue (mk : String → Property) : Decode (Property × Nat) := do
  let (val, consumed) ← parseUtf8String strict (← Decode.index (sliceFrom buffer offset))
  return (mk val, offset + consumed)

def binaryValue (mk : Bytes → Property) : Decode (Property × Nat) := do
  let (val, consumed) ← BinaryData.decode (← Decode.index (sliceFrom buffer offset))
  return (mk val, offset + consumed)

def pairValue (mk : String → String → Property) : Decode (Property × Nat) := do
  let (key, consumedKey) ← parseUtf8String strict (← Decode.index (sliceFrom buffer offset))
  let offset := offset + consumedKey
  let (val, consumedVal) ← parseUtf8String strict (← Decode.index (sliceFrom buffer offset))
  return (mk key val, offset + consumedVal)

end Values

def parseProperty (strict : Bool) (buffer : Bytes) : Decode (Property × Nat) := do
  let (propertyId, offset) ← parseVbi strict buffer
  match PropertyID.tryFrom propertyId with
  | .error _ => Decode.fail (.parseError "Unknown property ID")
  | .ok property =>
    match property with
    | .payloadFormatIndicator => byteValue buffer offset .payloadFormatIndicator
    | .messageExpiryInterval => fourByteValue buffer offset .messageExpiryInterval
    | .contentType => textValue strict buffer offset .contentType
    | .responseTopic => textValue strict buffer offset .responseTopic
    | .correlationData => binaryValue buffer offset .correlationData
    | .subscriptionIdentifier => vbiValue strict buffer offset .subscriptionIdentifier
    | .sessionExpiryInterval => fourByteValue buffer offset .sessionExpiryInterval
    | .assignedClientIdentifier => textValue strict buffer offset .assignedClientIdentifier
    | .serverKeepAlive => twoByteValue buffer offset .serverKeepAlive
    | .authenticationMethod => textValue strict buffer offset .authenticationMethod
    | .authenticationData => binaryValue buffer offset .authenticationData
    | .requestProblemInformation => byteValue buffer offset .requestProblemInformation
    | .willDelayInterval => fourByteValue buffer offset .willDelayInterval
    | .requestResponseInformation => byteValue buffer offset .requestResponseInformation
    | .responseInformation => textValue strict buffer offset .responseInformation
    | .serverReference => textValue strict buffer offset .serverReference
    | .reasonString => textValue strict buffer offset .reasonString
    | .receiveMaximum => twoByteValue buffer offset .receiveMaximum
    | .topicAliasMaximum => twoByteValue buffer offset .topicAliasMaximum
    | .topicAlias => twoByteValue buffer offset .topicAlias
    | .maximumQoS => byteValue buffer offset .maximumQoS
    | .retainAvailable => byteValue buffer offset .retainAvailable
    | .userProperty => pairValue strict buffer offset .userProperty
    | .maximumPacketSize => fourByteValue buffer offset .maximumPacketSize
    | .wildcardSubscriptionAvailable => byteValue buffer offset .wildcardSubscriptionAvailable
    | .subscriptionIdentifierAvailable => byteValue buffer offset .subscriptionIdentifierAvailable
    | .sharedSubscriptionAvailable => byteValue buffer offset .sharedSubscriptionAvailable

/-- One turn of the `while` of `parse_properties`. -/
def parseNextProperty (strict : Bool) (buffer : Bytes) : Decode (Property × Nat) := do
  let (prop, consumed) ← parseProperty strict buffer
  onlyIf strict (Decode.check (propertyValue prop))
  return (prop, consumed)

def parseProperties (strict : Bool) (buffer : Bytes) : Decode (Properties × Nat) :=
  readMany (fun offset => parseNextProperty strict (buffer.drop offset)) buffer.length
    (buffer.length + 1) 0

def parsePropertiesHdr (strict : Bool) (buffer : Bytes) : Decode (Properties × Nat) := do
  let (propLen, offset) ← parseVbi strict buffer
  rejectIf (buffer.length < offset + propLen) (.err .incompleteProperty)
  let (props, consumed) ← parseProperties strict ((buffer.take (offset + propLen)).drop offset)
  return (props, offset + consumed)

/-! ## Round trip -/

theorem parseVbi_code (strict : Bool) (id : PropertyID) (rest : Bytes) :
    parseVbi strict (id.code :: rest) = .ok (id.code.toNat, 1) := by
  cases id <;> cases strict <;> rfl

theorem tryFrom_code (id : PropertyID) : PropertyID.tryFrom id.code.toNat = .ok id := by
  cases id <;> rfl

section FormatReads

variable (strict : Bool) (c : UInt8) (rest : Bytes)

theorem byteValue_reads (mk : UInt8 → Property) (val : UInt8) :
    byteValue (c :: ([val] ++ rest)) 1 mk = .ok (mk val, 2) := rfl

theorem twoByteValue_reads (mk : UInt16 → Property) (val : UInt16) :
    twoByteValue (c :: (TwoByteInteger.encode val ++ rest)) 1 mk = .ok (mk val, 3) := by
  simp [twoByteValue, sliceRange, TwoByteInteger.encode, u16FromBeBytes_encode]

theorem fourByteValue_reads (mk : UInt32 → Property) (val : UInt32) :
    fourByteValue (c :: (FourByteInteger.encode val ++ rest)) 1 mk = .ok (mk val, 5) := by
  simp [fourByteValue, sliceRange, FourByteInteger.encode, u32FromBeBytes_encode]

theorem vbiValue_reads (mk : UInt32 → Property) {val : UInt32}
    (h : val.toNat ≤ VariableByteInteger.maxValue) :
    vbiValue strict (c :: (VariableByteInteger.encode val ++ rest)) 1 mk =
      .ok (mk val, 1 + (VariableByteInteger.encode val).length) := by
  simp [vbiValue, sliceFrom, parseVbi, VariableByteInteger.reads strict h rest]

theorem textValue_reads (mk : String → Property) {val : String} (hlen : strLen val ≤ u16Max)
    (hvalid : strict = true → validateMqttUtf8String val = .ok ()) :
    textValue strict (c :: (BinaryData.encode (strBytes val) ++ rest)) 1 mk =
      .ok (mk val, 1 + (BinaryData.encode (strBytes val)).length) := by
  have h := Utf8String.reads strict hlen hvalid rest
  simp only [Utf8String.encode] at h
  simp [textValue, sliceFrom, parseUtf8String, h]

theorem binaryValue_reads (mk : Bytes → Property) {val : Bytes} (hlen : val.length ≤ u16Max) :
    binaryValue (c :: (BinaryData.encode val ++ rest)) 1 mk =
      .ok (mk val, 1 + (BinaryData.encode val).length) := by
  simp [binaryValue, sliceFrom, BinaryData.reads hlen rest]

theorem pairValue_reads (mk : String → String → Property) {key val : String}
    (hk : strLen key ≤ u16Max) (hkv : strict = true → validateMqttUtf8String key = .ok ())
    (hv : strLen val ≤ u16Max) (hvv : strict = true → validateMqttUtf8String val = .ok ()) :
    pairValue strict (c :: ((BinaryData.encode (strBytes key) ++
        BinaryData.encode (strBytes val)) ++ rest)) 1 mk =
      .ok (mk key val, 1 + (BinaryData.encode (strBytes key) ++
        BinaryData.encode (strBytes val)).length) := by
  have h1 := Utf8String.reads strict hk hkv (BinaryData.encode (strBytes val) ++ rest)
  have h2 := (Utf8String.reads strict hv hvv).drop (c :: BinaryData.encode (strBytes key)) rest
    (n := 1 + (BinaryData.encode (strBytes key)).length) (by simp [Nat.add_comm])
  simp only [Utf8String.encode, List.cons_append] at h1 h2
  have hle : 1 + (BinaryData.encode (strBytes key)).length ≤
      (c :: (BinaryData.encode (strBytes key) ++ (BinaryData.encode (strBytes val) ++ rest))).length
      := by simp; omega
  simp only [pairValue, List.append_assoc, parseUtf8String]
  rw [sliceFrom_of_le (by simp)]
  simp only [Decode.index_some, ok_bind, List.drop_succ_cons, List.drop_zero, h1]
  rw [sliceFrom_of_le hle]
  simp only [Decode.index_some, ok_bind, h2, pure_eq_ok, List.length_append, Nat.add_assoc]

end FormatReads

/-- A property whose value passes its check is read back from its own bytes. -/
theorem parseProperty_reads (strict : Bool) {p : Property} (h : propertyValue p = .ok ()) :
    Reads (parseProperty strict) p.encodeValidated p := by
  intro rest
  unfold parseProperty
  rw [Property.encodeValidated, List.cons_append, parseVbi_code]
  simp only [ok_bind, tryFrom_code]
  cases p <;> simp only [Property.id, Property.encodeValue, propertyValue, rejectIf_eq_ok,
    validateString_eq_ok, validateTopic_eq_ok, require_eq_ok, check_bind_eq_ok] at h ⊢
  case payloadFormatIndicator | requestProblemInformation | requestResponseInformation
      | maximumQoS | retainAvailable | wildcardSubscriptionAvailable
      | subscriptionIdentifierAvailable | sharedSubscriptionAvailable =>
    exact byteValue_reads ..
  case serverKeepAlive | receiveMaximum | topicAliasMaximum | topicAlias =>
    exact twoByteValue_reads ..
  case messageExpiryInterval | sessionExpiryInterval | willDelayInterval | maximumPacketSize =>
    exact fourByteValue_reads ..
  case subscriptionIdentifier =>
    rw [vbiValue_reads _ _ _ _ h.2, List.length_cons, Nat.add_comm]
  case contentType | authenticationMethod | responseInformation | serverReference | reasonString =>
    rw [textValue_reads _ _ _ _ h.1 (fun _ => h.2), List.length_cons, Nat.add_comm]
  case responseTopic | assignedClientIdentifier =>
    rw [textValue_reads _ _ _ _ h.1.1 (fun _ => h.1.2), List.length_cons, Nat.add_comm]
  case correlationData | authenticationData =>
    rw [binaryValue_reads _ _ _ (Nat.le_of_not_gt h), List.length_cons, Nat.add_comm]
  case userProperty =>
    rw [pairValue_reads _ _ _ _ h.1.1 (fun _ => h.1.2) h.2.1 (fun _ => h.2.2), List.length_cons,
      Nat.add_comm]

theorem encodeValidated_ne_nil (p : Property) : p.encodeValidated ≠ [] :=
  List.cons_ne_nil _ _

theorem parseNextProperty_reads (strict : Bool) {p : Property} (h : propertyValue p = .ok ()) :
    Reads (parseNextProperty strict) p.encodeValidated p := by
  intro rest
  rw [parseNextProperty, parseProperty_reads strict h rest, ok_bind]
  dsimp only
  rw [h]
  cases strict <;> rfl

/-- The loop over the body reads every property back. -/
theorem parseProperties_flatMap (strict : Bool) {ps : Properties}
    (h : ∀ p ∈ ps, propertyValue p = .ok ()) :
    parseProperties strict (ps.flatMap Property.encodeValidated) =
      .ok (ps, (ps.flatMap Property.encodeValidated).length) := by
  exact readMany_slice (fun offset => .ok ((ps.flatMap Property.encodeValidated).drop offset))
    encodeValidated_ne_nil (fun p hp => parseNextProperty_reads strict (h p hp)) []
    (b := ps.flatMap Property.encodeValidated) rfl
    (fun front rest hcut => by rw [hcut, List.drop_left])
    (Nat.lt_succ_of_le (length_le_flatMap encodeValidated_ne_nil ps)) rfl rfl

/-! ## The prepared section -/

theorem binaryLen_ok {len n : Nat} (h : binaryLen len = .ok n) : len ≤ u16Max ∧ n = 2 + len := by
  unfold binaryLen at h
  split at h <;> simp_all

theorem Property.valueLen_ok {p : Property} {n : Nat} (h : p.valueLen = .ok n) :
    n = p.encodeValue.length := by
  cases p <;> simp only [Property.valueLen, Except.ok.injEq, bind_eq_ok, pure_eq_ok] at h
  case userProperty =>
    obtain ⟨k, hk, v, hv, rfl⟩ := h
    simp [Property.encodeValue, (binaryLen_ok hk).2, (binaryLen_ok hv).2, strLen]
  case subscriptionIdentifier => simp [← h, Property.encodeValue, VariableByteInteger.encodedLen_eq]
  case contentType | responseTopic | assignedClientIdentifier | authenticationMethod
      | responseInformation | serverReference | reasonString | correlationData
      | authenticationData =>
    simp [Property.encodeValue, (binaryLen_ok h).2, strLen]
  all_goals simp [← h, Property.encodeValue]

theorem Property.encodedLen_ok {strict : Bool} {p : Property} {n : Nat}
    (h : p.encodedLen strict = .ok n) :
    n = p.encodeValidated.length ∧ (strict = true → propertyValue p = .ok ()) := by
  rw [Property.encodedLen, check_bind_eq_ok, onlyIf_eq_ok] at h
  simp only [bind_eq_ok, pure_eq_ok, Except.ok.injEq] at h
  obtain ⟨hvalid, len, hlen, rfl⟩ := h
  refine ⟨?_, hvalid⟩
  rw [Property.valueLen_ok hlen, Property.encodeValidated, List.length_cons, Nat.add_comm]

namespace PropertyEncoder

theorem bodyLenLoop_ok {strict : Bool} :
    ∀ {ps : Properties} {start n : Nat}, bodyLenLoop strict ps start = .ok n →
      n = start + (ps.flatMap Property.encodeValidated).length ∧
        (strict = true → ∀ p ∈ ps, propertyValue p = .ok ()) := by
  intro ps
  induction ps with
  | nil => intro start n h; simp_all [bodyLenLoop]
  | cons p ps ih =>
    intro start n h
    simp only [bodyLenLoop, bind_eq_ok] at h
    obtain ⟨len, hlen, hrest⟩ := h
    obtain ⟨hlen, hp⟩ := Property.encodedLen_ok hlen
    obtain ⟨hn, hps⟩ := ih hrest
    refine ⟨?_, fun hs q hq => ?_⟩
    · rw [hn, hlen, List.flatMap_cons, List.length_append, Nat.add_assoc]
    · cases List.mem_cons.mp hq with
      | inl hq => exact hq ▸ hp hs
      | inr hq => exact hps hs q hq

theorem new_ok {strict : Bool} {ps : Properties} {e : PropertyEncoder}
    (h : new strict ps = .ok e) :
    e = ⟨ps, (ps.flatMap Property.encodeValidated).length⟩ ∧
      (strict = true → ∀ p ∈ ps, propertyValue p = .ok ()) := by
  simp only [new, bind_eq_ok, pure_eq_ok, Except.ok.injEq] at h
  obtain ⟨n, hn, rfl⟩ := h
  obtain ⟨hn, hps⟩ := bodyLenLoop_ok hn
  exact ⟨by rw [hn, Nat.zero_add], hps⟩

/-- The announced size of a prepared section is the size it writes. -/
theorem encodedLen_eq {strict : Bool} {ps : Properties} {e : PropertyEncoder}
    (h : new strict ps = .ok e) : e.encodedLen = e.encodeInto.length := by
  rw [(new_ok h).1]
  simp [encodedLen, encodeInto, VariableByteInteger.encodedLen_eq]

end PropertyEncoder

/-- What a section that passed the encoder looks like. -/
theorem encodeProperitiesHdr_ok {strict : Bool} {ps : Properties} {b : Bytes}
    (h : encodeProperitiesHdr strict ps = .ok b) :
    b = VariableByteInteger.encode (UInt32.ofNat (ps.flatMap Property.encodeValidated).length) ++
        ps.flatMap Property.encodeValidated ∧
      (strict = true → ∀ p ∈ ps, propertyValue p = .ok ()) := by
  simp only [encodeProperitiesHdr, bind_eq_ok, pure_eq_ok, Except.ok.injEq] at h
  obtain ⟨e, he, rfl⟩ := h
  obtain ⟨rfl, hps⟩ := PropertyEncoder.new_ok he
  exact ⟨rfl, hps⟩

/-- The bytes of a section that the writer accepts. -/
def propertySection (ps : Properties) : Bytes :=
  VariableByteInteger.encode (UInt32.ofNat (ps.flatMap Property.encodeValidated).length) ++
    ps.flatMap Property.encodeValidated

/-- A whole section is read back, whatever follows it. -/
theorem propertySection_reads (strict : Bool) {ps : Properties}
    (h : ∀ p ∈ ps, propertyValue p = .ok ())
    (hlen : (propertySection ps).length ≤ VariableByteInteger.maxValue) :
    Reads (parsePropertiesHdr strict) (propertySection ps) ps := by
  intro rest
  unfold propertySection at hlen ⊢
  set body := ps.flatMap Property.encodeValidated with hbody
  have hmax : body.length ≤ VariableByteInteger.maxValue := by
    rw [List.length_append] at hlen
    omega
  have hnat : (UInt32.ofNat body.length).toNat = body.length := by
    rw [UInt32.toNat_ofNat', Nat.mod_eq_of_lt]
    unfold VariableByteInteger.maxValue at hmax
    omega
  have hvbi := VariableByteInteger.reads strict (v := UInt32.ofNat body.length)
    (by rw [hnat]; exact hmax) (body ++ rest)
  have hloop := parseProperties_flatMap strict h
  rw [← hbody] at hloop
  rw [hnat] at hvbi
  have hslice : ∀ pre : Bytes, ((pre ++ (body ++ rest)).take (pre.length + body.length)).drop
      pre.length = body := by
    intro pre
    rw [List.take_append, List.drop_append]
    simp [List.take_of_length_le]
  unfold parsePropertiesHdr
  rw [List.append_assoc, parseVbi, hvbi]
  simp only [ok_bind, hslice, hloop]
  rw [rejectIf_neg _ (by simp)]
  simp

theorem parsePropertiesHdr_reads {ps : Properties} {b : Bytes}
    (h : encodeProperitiesHdr true ps = .ok b) (hlen : b.length ≤ VariableByteInteger.maxValue) :
    Reads (parsePropertiesHdr true) b ps := by
  obtain ⟨rfl, hps⟩ := encodeProperitiesHdr_ok h
  exact propertySection_reads true (hps rfl) hlen

end FlowSdk
