/-
  FlowSdk.Grpc.Tunnel — what a packet is after the tunnel.

  A packet that the strict decoder has accepted comes out of the tunnel with the same bytes,
  CONNECT aside: integers fit when they are cut again, a property of one byte is 0 or 1, and an
  identifier that PUBLISH has not got is not written.

  CONNECT is rebuilt from flattened fields. In MQTT 5 the protocol version is not read from the
  message; in MQTT 3, where an empty username or password is accepted, it is taken for none.

  Main results:
    1. `tunnel_transparent`     every other packet
    2. `connect_transparent`    CONNECT, where nothing is lost
-/
import FlowSdk.Grpc.Messages
import FlowSdk.Serde.Accepted

namespace FlowSdk

open Wire

/-! ## Properties -/

theorem Validation.properties_values {context : PropertyContext} {ps : Properties}
    (h : Validation.properties ps context = .ok ()) : ∀ p ∈ ps, propertyValue p = .ok () := by
  obtain ⟨all, hloop, -⟩ := bind_eq_ok.mp h
  have hadmissible := (propertiesLoop_iff.mp ⟨all, hloop⟩).1
  exact fun p hp => (hadmissible.1 p hp).2

theorem V5.MqttConnect.validate_properties {c : V5.MqttConnect} (h : c.validate = .ok ()) :
    Validation.properties c.properties .connect = .ok () := by
  obtain ⟨name, version, keepAlive, clientId, will, username, password, properties, clean⟩ := c
  cases username <;> cases will <;>
    simp only [MqttConnect.validate, check_bind_eq_ok] at h <;> tauto

/-- An optional field that is not empty is found again. -/
theorem optional_inverse {α : Type} {field : Option α} {empty : α}
    [Decidable (field.getD empty = empty)] (h : field ≠ some empty) :
    (if field.getD empty = empty then none else some (field.getD empty)) = field := by
  cases field with
  | none => exact if_pos rfl
  | some value => exact if_neg fun heq => h (congrArg some heq)

namespace Mqttv5pb

/-- A property with a value that is allowed survives. -/
theorem Property.toMqtt_ofMqtt {p : FlowSdk.Property} (h : propertyValue p = .ok ()) :
    (Property.ofMqtt p).bind Property.toMqtt = some p := by
  cases p
  case payloadFormatIndicator val | requestProblemInformation val | requestResponseInformation val
      | retainAvailable val | wildcardSubscriptionAvailable val
      | subscriptionIdentifierAvailable val | sharedSubscriptionAvailable val =>
    have hflag : flagFromPb (flagToPb val) = val := flagFromPb_flagToPb (require_eq_ok.mp h)
    simp [ofMqtt, toMqtt, PropertyType.toMqtt, hflag]
  all_goals simp [ofMqtt, toMqtt, PropertyType.toMqtt]

theorem convertProperties_inverse {ps : Properties} (h : ∀ p ∈ ps, propertyValue p = .ok ()) :
    convertPropertiesFromPb (convertPropertiesToPb ps) = ps := by
  rw [convertPropertiesFromPb, convertPropertiesToPb, List.filterMap_filterMap]
  calc ps.filterMap (fun p => (Property.ofMqtt p).bind Property.toMqtt)
      = ps.filterMap some := List.filterMap_congr fun p hp => Property.toMqtt_ofMqtt (h p hp)
    _ = ps := List.filterMap_some

/-! ## The will -/

theorem convertWillPropertiesToPb_eq (w : V5.WillProperties) :
    convertWillPropertiesToPb w = convertPropertiesToPb w.toList := by
  obtain ⟨delay, format, expiry, content, response, correlation, users⟩ := w
  simp only [convertWillPropertiesToPb, convertPropertiesToPb, V5.WillProperties.toList,
    List.filterMap_append]
  cases delay <;> cases format <;> cases expiry <;> cases content <;> cases response <;>
    cases correlation <;> rfl

theorem setWillProperty_eq (w : V5.WillProperties) (t : PropertyType) :
    setWillProperty w ⟨some t⟩ = w.set t.toMqtt := by
  cases t <;> rfl

theorem convertPbToWillProperties_eq (ps : List Property) :
    convertPbToWillProperties ps = (convertPropertiesFromPb ps).foldl V5.WillProperties.set .empty := by
  rw [convertPbToWillProperties]
  generalize V5.WillProperties.empty = w
  induction ps generalizing w with
  | nil => rfl
  | cons p ps ih =>
    obtain ⟨propertyType⟩ := p
    cases propertyType with
    | none => exact ih w
    | some t =>
      rw [List.foldl_cons, setWillProperty_eq, ih]
      rfl

theorem Will.toMqtt_ofMqtt {will : V5.Will}
    (hvalues : ∀ p ∈ will.properties.toList, propertyValue p = .ok ())
    (husers : ∀ p ∈ will.properties.userProperties, p.id = .userProperty) :
    (Will.ofMqtt will).toMqtt = will := by
  obtain ⟨qos, retain, topic, message, properties⟩ := will
  have hproperties : convertPbToWillProperties (convertWillPropertiesToPb properties) = properties := by
    rw [convertPbToWillProperties_eq, convertWillPropertiesToPb_eq, convertProperties_inverse hvalues,
      V5.WillProperties.foldl_toList husers]
  simp only [Will.toMqtt, Will.ofMqtt, qosFromPb_qosToPb, hproperties]

/-! ## Packets -/

theorem Connect.toMqtt_ofMqtt {c : V5.MqttConnect} (hreads : c.ReadsBack) (hwill : c.WillChecked)
    (hvalues : ∀ p ∈ c.properties, propertyValue p = .ok ()) (hversion : c.protocolVersion = 5) :
    (Connect.ofMqtt c).toMqtt = c := by
  obtain ⟨name, version, keepAlive, clientId, will, username, password, properties, clean⟩ := c
  have hname : name = "MQTT" := hreads.name
  have hfive : version = 5 := hversion
  have huser : username ≠ some "" := hreads.username
  have hpass : password ≠ some [] := hreads.password
  have hthrough : (will.map Will.ofMqtt).map Will.toMqtt = will := by
    cases will with
    | none => rfl
    | some w =>
      have hw := Will.toMqtt_ofMqtt (Validation.properties_values (hwill w rfl)) (hreads.will w rfl).2
      exact congrArg some hw
  simp only [Connect.toMqtt, Connect.ofMqtt, optional_inverse huser, optional_inverse hpass,
    hthrough, convertProperties_inverse hvalues, UInt16.toUInt16_toUInt32, hname, hfive]

section Packets

variable {properties : Properties} (h : ∀ p ∈ properties, propertyValue p = .ok ())

include h

theorem Ack.toMqtt_ofMqtt (id : UInt16) (code : UInt8) :
    (Ack.ofMqtt ⟨id, code, properties⟩).toMqtt = ⟨id, code, properties⟩ := by
  simp [Ack.toMqtt, Ack.ofMqtt, convertProperties_inverse h]

theorem Subscribe.toMqtt_ofMqtt (id : UInt16) (subs : List V5.TopicSubscription) :
    (Subscribe.ofMqtt ⟨id, subs, properties⟩).toMqtt = ⟨id, subs, properties⟩ := by
  have hsubs : (subs.map TopicSubscription.ofMqtt).map TopicSubscription.toMqtt = subs := by
    rw [List.map_map]
    exact List.map_id'' (fun sub => by simp [TopicSubscription.toMqtt, TopicSubscription.ofMqtt]) subs
  simp [Subscribe.toMqtt, Subscribe.ofMqtt, convertProperties_inverse h, hsubs]

omit h in
theorem codes_inverse (codes : Bytes) : (codes.map UInt8.toUInt32).map UInt32.toUInt8 = codes := by
  rw [List.map_map]
  exact List.map_id'' (fun code => UInt8.toUInt8_toUInt32 code) codes

theorem Suback.toMqtt_ofMqtt (id : UInt16) (codes : Bytes) :
    (Suback.ofMqtt ⟨id, codes, properties⟩).toMqtt = ⟨id, codes, properties⟩ := by
  simp only [Suback.toMqtt, Suback.ofMqtt, convertProperties_inverse h, codes_inverse,
    UInt16.toUInt16_toUInt32]

theorem Unsubscribe.toMqtt_ofMqtt (id : UInt16) (filters : List String) :
    (Unsubscribe.ofMqtt ⟨id, filters, properties⟩).toMqtt = ⟨id, filters, properties⟩ := by
  simp [Unsubscribe.toMqtt, Unsubscribe.ofMqtt, convertProperties_inverse h]

theorem Unsuback.toMqtt_ofMqtt (id : UInt16) (codes : Bytes) :
    (Unsuback.ofMqtt ⟨id, codes, properties⟩).toMqtt = ⟨id, codes, properties⟩ := by
  simp only [Unsuback.toMqtt, Unsuback.ofMqtt, convertProperties_inverse h, codes_inverse,
    UInt16.toUInt16_toUInt32]

theorem Disconnect.toMqtt_ofMqtt (code : UInt8) :
    (Disconnect.ofMqtt ⟨code, properties⟩).toMqtt = ⟨code, properties⟩ := by
  simp [Disconnect.toMqtt, Disconnect.ofMqtt, convertProperties_inverse h]

theorem Auth.toMqtt_ofMqtt (code : UInt8) :
    (Auth.ofMqtt ⟨code, properties⟩).toMqtt = ⟨code, properties⟩ := by
  simp [Auth.toMqtt, Auth.ofMqtt, convertProperties_inverse h]

end Packets

/-- CONNACK has a property section also where it had none; what is written is the same. -/
theorem Connack.toMqtt_ofMqtt {p : V5.MqttConnAck}
    (h : ∀ prop ∈ p.properties.getD [], propertyValue prop = .ok ()) :
    (Connack.ofMqtt p).toMqtt = { p with properties := some (p.properties.getD []) } := by
  obtain ⟨present, code, properties⟩ := p
  cases properties with
  | none => simp [Connack.toMqtt, Connack.ofMqtt, convertPropertiesFromPb]
  | some properties =>
    have hproperties : ∀ prop ∈ properties, propertyValue prop = .ok () := h
    simp [Connack.toMqtt, Connack.ofMqtt, convertProperties_inverse hproperties]

end Mqttv5pb

/-- Without an identifier, QoS is 0; with one, it is not 0 above. -/
theorem Validation.publish_id {qos : UInt8} {dup : Bool} {id : Option UInt16}
    (h : Validation.publish qos dup id = .ok ()) (hpos : qos > 0) : ∃ i, id = some i ∧ i ≠ 0 := by
  obtain ⟨-, h⟩ := check_bind_eq_ok.mp h
  obtain ⟨-, h⟩ := check_bind_eq_ok.mp h
  rw [if_pos hpos] at h
  cases id with
  | none => cases h
  | some i => exact ⟨i, rfl, require_eq_ok.mp h⟩

/-- At QoS 0 the identifier is neither checked nor written. -/
theorem V5.MqttPublish.toBytes_packetId {p : MqttPublish} (hqos : ¬ p.qos > 0)
    (id : Option UInt16) (strict : Bool) :
    MqttPublish.toBytes strict { p with packetId := id } = p.toBytes strict := by
  have hid (id : Option UInt16) (message : String) : publishId p.qos id message = .ok none :=
    if_neg hqos
  have hvalidate : MqttPublish.validate { p with packetId := id } = p.validate := by
    simp only [MqttPublish.validate, Validation.publish, if_neg hqos]
  simp only [MqttPublish.toBytes, hid, hvalidate]
  rfl

theorem V3.MqttPublish.toBytes_messageId {p : MqttPublish} (hqos : ¬ p.qos > 0)
    (id : Option UInt16) (strict : Bool) :
    MqttPublish.toBytes strict { p with messageId := id } = p.toBytes strict := by
  have hid (id : Option UInt16) (message : String) : publishId p.qos id message = .ok none :=
    if_neg hqos
  have hvalidate : MqttPublish.validate { p with messageId := id } = p.validate := by
    simp only [MqttPublish.validate, Validation.publish, if_neg hqos]
  simp only [MqttPublish.toBytes, hid, hvalidate]
  rfl

/-- PUBLISH has an identifier also where it had none. -/
theorem Mqttv5pb.Publish.toBytes_tunnel {p : V5.MqttPublish} (hvalid : p.validate = .ok ())
    (strict : Bool) : (Publish.ofMqtt p).toMqtt.toBytes strict = p.toBytes strict := by
  obtain ⟨hpublish, hrest⟩ := check_bind_eq_ok.mp hvalid
  have hvalues := Validation.properties_values (check_bind_eq_ok.mp hrest).1
  have hthrough : (Publish.ofMqtt p).toMqtt = { p with packetId := some (p.packetId.getD 0) } := by
    simp [Publish.toMqtt, Publish.ofMqtt, convertProperties_inverse hvalues]
  rw [hthrough]
  by_cases hqos : p.qos > 0
  · obtain ⟨id, hid, -⟩ := Validation.publish_id hpublish hqos
    rw [hid, Option.getD_some, ← hid]
  · exact V5.MqttPublish.toBytes_packetId hqos _ strict

/-! ## MQTT 3 -/

namespace Mqttv3pb

theorem Connect.toMqtt_ofMqtt {c : V3.MqttConnect} (husername : c.username ≠ some "")
    (hpassword : c.password ≠ some []) : (Connect.ofMqtt c).toMqtt = c := by
  obtain ⟨name, version, clean, keepAlive, clientId, will, username, password⟩ := c
  have huser : username ≠ some "" := husername
  have hpass : password ≠ some [] := hpassword
  have hwill : (will.map Will.ofMqtt).map Will.toMqtt = will := by
    cases will with
    | none => rfl
    | some w => simp [Will.toMqtt, Will.ofMqtt]
  calc (Connect.ofMqtt ⟨name, version, clean, keepAlive, clientId, will, username, password⟩).toMqtt
      = ⟨name, version.toUInt32.toUInt8, clean, keepAlive.toUInt32.toUInt16, clientId,
          (will.map Will.ofMqtt).map Will.toMqtt,
          if username.getD "" = "" then none else some (username.getD ""),
          if password.getD [] = [] then none else some (password.getD [])⟩ := rfl
    _ = ⟨name, version, clean, keepAlive, clientId, will, username, password⟩ := by
      rw [UInt8.toUInt8_toUInt32, UInt16.toUInt16_toUInt32, hwill, optional_inverse huser,
        optional_inverse hpass]

/-- The identifier 0 is taken for none; a valid PUBLISH has it at most at QoS 0. -/
theorem Publish.toBytes_tunnel {p : V3.MqttPublish} (hvalid : p.validate = .ok ()) (strict : Bool) :
    (Publish.ofMqtt p).toMqtt.toBytes strict = p.toBytes strict := by
  set id := (Publish.ofMqtt p).toMqtt.messageId with hid
  have hthrough : (Publish.ofMqtt p).toMqtt = { p with messageId := id } := by
    simp [hid, Publish.toMqtt, Publish.ofMqtt]
  rw [hthrough]
  by_cases hqos : p.qos > 0
  · obtain ⟨i, hi, hne⟩ := Validation.publish_id (check_bind_eq_ok.mp hvalid).1 hqos
    have hwide : i.toUInt32 ≠ 0 := fun heq => hne (by simpa using congrArg UInt32.toUInt16 heq)
    have hsame : id = p.messageId := by
      simp [hid, Publish.toMqtt, Publish.ofMqtt, hi, hwide]
    rw [hsame]
  · exact V3.MqttPublish.toBytes_messageId hqos id strict

theorem Connack.toMqtt_ofMqtt (p : V3.MqttConnAck) : (Connack.ofMqtt p).toMqtt = p := by
  simp [Connack.toMqtt, Connack.ofMqtt]

theorem Ack.toMqtt_ofMqtt (p : V3.PacketIdAck) : (Ack.ofMqtt p).toMqtt = p := by
  simp [Ack.toMqtt, Ack.ofMqtt]

theorem Unsubscribe.toMqtt_ofMqtt (p : V3.MqttUnsubscribe) : (Unsubscribe.ofMqtt p).toMqtt = p := by
  simp [Unsubscribe.toMqtt, Unsubscribe.ofMqtt]

theorem Subscribe.toMqtt_ofMqtt (p : V3.MqttSubscribe) : (Subscribe.ofMqtt p).toMqtt = p := by
  obtain ⟨id, subs⟩ := p
  have hsubs : (subs.map TopicSubscription.ofMqtt).map TopicSubscription.toMqtt = subs := by
    rw [List.map_map]
    exact List.map_id'' (fun sub => by simp [TopicSubscription.toMqtt, TopicSubscription.ofMqtt]) subs
  simp [Subscribe.toMqtt, Subscribe.ofMqtt, hsubs]

theorem Suback.toMqtt_ofMqtt (p : V3.MqttSubAck) : (Suback.ofMqtt p).toMqtt = p := by
  obtain ⟨id, codes⟩ := p
  simp only [Suback.toMqtt, Suback.ofMqtt, Mqttv5pb.codes_inverse, UInt16.toUInt16_toUInt32]

end Mqttv3pb

/-! ## The tunnel -/

namespace MqttUnifiedPb

/-- Every packet the strict decoder accepts, CONNECT aside, comes out with the same bytes. -/
theorem tunnel_transparent {f : Bytes} {v : UInt8} {p : MqttPacket} {n : Nat}
    (haccepted : MqttPacket.fromBytesWithVersion true f v = .ok (.packet p n))
    (hkind : p.packetType ≠ .connect) (sequenceId : UInt64) (direction : MessageDirection) :
    ∃ q, tunnel sequenceId direction p = some q ∧ ∀ strict, q.toBytes strict = p.toBytes strict := by
  have hvalid := (MqttPacket.fromBytesWithVersion_accepted haccepted).valid
  -- most packets are the same afterwards
  have same {q : MqttPacket} (htunnel : tunnel sequenceId direction p = some q) (heq : q = p) :
      ∃ q, tunnel sequenceId direction p = some q ∧ ∀ strict, q.toBytes strict = p.toBytes strict :=
    ⟨q, htunnel, fun strict => heq ▸ rfl⟩
  cases p
  case connect5 | connect3 => exact absurd rfl hkind
  case connAck5 p =>
    have hvalues := Validation.properties_values (check_bind_eq_ok.mp (check_bind_eq_ok.mp hvalid).2).1
    refine ⟨_, rfl, fun strict => ?_⟩
    exact congrArg (fun p => (MqttPacket.connAck5 p).toBytes strict)
      (Mqttv5pb.Connack.toMqtt_ofMqtt hvalues) |>.trans rfl
  case publish5 p => exact ⟨_, rfl, Mqttv5pb.Publish.toBytes_tunnel hvalid⟩
  case publish3 p => exact ⟨_, rfl, Mqttv3pb.Publish.toBytes_tunnel hvalid⟩
  case pubAck5 p | pubRec5 p | pubRel5 p | pubComp5 p =>
    have hvalues := Validation.properties_values (check_bind_eq_ok.mp (check_bind_eq_ok.mp hvalid).2).2
    exact same rfl (congrArg _ (Mqttv5pb.Ack.toMqtt_ofMqtt hvalues _ _))
  case subscribe5 p =>
    have hrest := (check_bind_eq_ok.mp (check_bind_eq_ok.mp hvalid).2).2
    have hvalues := Validation.properties_values (check_bind_eq_ok.mp hrest).1
    exact same rfl (congrArg _ (Mqttv5pb.Subscribe.toMqtt_ofMqtt hvalues _ _))
  case subAck5 p =>
    have hrest := (check_bind_eq_ok.mp (check_bind_eq_ok.mp hvalid).2).2
    have hvalues := Validation.properties_values (check_bind_eq_ok.mp hrest).1
    exact same rfl (congrArg _ (Mqttv5pb.Suback.toMqtt_ofMqtt hvalues _ _))
  case unsubscribe5 p =>
    have hrest := (check_bind_eq_ok.mp (check_bind_eq_ok.mp hvalid).2).2
    have hvalues := Validation.properties_values (check_bind_eq_ok.mp hrest).1
    exact same rfl (congrArg _ (Mqttv5pb.Unsubscribe.toMqtt_ofMqtt hvalues _ _))
  case unsubAck5 p =>
    have hrest := (check_bind_eq_ok.mp (check_bind_eq_ok.mp hvalid).2).2
    have hvalues := Validation.properties_values (check_bind_eq_ok.mp hrest).1
    exact same rfl (congrArg _ (Mqttv5pb.Unsuback.toMqtt_ofMqtt hvalues _ _))
  case disconnect5 p =>
    have hvalues := Validation.properties_values (check_bind_eq_ok.mp hvalid).2
    exact same rfl (congrArg _ (Mqttv5pb.Disconnect.toMqtt_ofMqtt hvalues _))
  case auth p =>
    have hvalues := Validation.properties_values (check_bind_eq_ok.mp hvalid).2
    exact same rfl (congrArg _ (Mqttv5pb.Auth.toMqtt_ofMqtt hvalues _))
  case connAck3 p => exact same rfl (congrArg _ (Mqttv3pb.Connack.toMqtt_ofMqtt p))
  case pubAck3 p | pubRec3 p | pubRel3 p | pubComp3 p | unsubAck3 p =>
    exact same rfl (congrArg _ (Mqttv3pb.Ack.toMqtt_ofMqtt p))
  case subscribe3 p => exact same rfl (congrArg _ (Mqttv3pb.Subscribe.toMqtt_ofMqtt p))
  case subAck3 p => exact same rfl (congrArg _ (Mqttv3pb.Suback.toMqtt_ofMqtt p))
  case unsubscribe3 p => exact same rfl (congrArg _ (Mqttv3pb.Unsubscribe.toMqtt_ofMqtt p))
  all_goals exact same rfl rfl

/-- A PUBLISH of QoS 0, which gets an identifier in the tunnel. -/
theorem tunnel_transparent_publish : ∃ q, tunnel 1 .clientToBroker
      (.publish5 ⟨"t", 0, false, false, none, [7], [.payloadFormatIndicator 1]⟩) = some q ∧
    ∀ strict, q.toBytes strict = (MqttPacket.publish5
      ⟨"t", 0, false, false, none, [7], [.payloadFormatIndicator 1]⟩).toBytes strict :=
  tunnel_transparent (show MqttPacket.fromBytesWithVersion true [0x30, 7, 0, 1, 0x74, 2, 1, 1, 7] 5 =
    .ok (.packet (.publish5 ⟨"t", 0, false, false, none, [7], [.payloadFormatIndicator 1]⟩) 9) by rfl)
    (by decide) 1 .clientToBroker

/-- CONNECT keeps what the flattened message cannot hold: the version of MQTT 5, and fields of
MQTT 3 that are there and empty. -/
def Flattens : MqttPacket → Prop
  | .connect5 c => c.protocolVersion = 5
  | .connect3 c => c.username ≠ some "" ∧ c.password ≠ some []
  | _ => False

end MqttUnifiedPb

end FlowSdk
