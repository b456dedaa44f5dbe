/-
  FlowSdk.Serde.RoundTrip — encoding and decoding are inverse in the strict build.

  The per-packet results of `RoundTrip5` and `RoundTrip3` are put behind the dispatch on
  the packet type and the protocol version.

  Main result:
    1. `MqttPacket.fromBytesWithVersion_toBytes`   every packet other than CONNECT is read
                                                   back, with the identifier of a QoS 0
                                                   PUBLISH dropped and an empty CONNACK
                                                   property list turned into none
-/
import FlowSdk.Serde.RoundTrip3

namespace FlowSdk

open Wire

namespace MqttPacket

def isConnect : MqttPacket → Bool
  | .connect5 _ | .connect3 _ => true
  | _ => false

/-- The protocol version whose decoder belongs to a packet. -/
def wireVersion : MqttPacket → UInt8
  | .connect5 _ | .connAck5 _ | .publish5 _ | .pubAck5 _ | .pubRec5 _ | .pubRel5 _ | .pubComp5 _
  | .subscribe5 _ | .subAck5 _ | .unsubscribe5 _ | .unsubAck5 _ | .pingReq5 | .pingResp5
  | .disconnect5 _ | .auth _ => 5
  | _ => 4

/-- What survives a round trip: the packet itself, but for the identifier of a QoS 0 PUBLISH
and an empty list of CONNACK properties. -/
def normalize : MqttPacket → MqttPacket
  | .publish5 p => .publish5 { p with packetId := if p.qos = 0 then none else p.packetId }
  | .publish3 p => .publish3 { p with messageId := if p.qos = 0 then none else p.messageId }
  | .connAck5 p =>
    .connAck5 { p with properties := if p.properties = some [] then none else p.properties }
  | p => p

theorem wireId_eq (qos : UInt8) (id : Option UInt16) :
    wireId qos id = if qos = 0 then none else id := by
  unfold wireId
  by_cases h : qos = 0
  · simp [h]
  · rw [if_pos (UInt8.pos_iff_ne_zero.mpr h), if_neg h]

theorem connAck5_normalize (p : V5.MqttConnAck) :
    MqttPacket.connAck5 p.normalize = (MqttPacket.connAck5 p).normalize := by
  obtain ⟨s, r, props⟩ := p
  rcases props with _ | ⟨_ | ⟨a, l⟩⟩ <;> rfl

theorem publish5_normalize (p : V5.MqttPublish) :
    MqttPacket.publish5 p.normalize = (MqttPacket.publish5 p).normalize := by
  rw [V5.MqttPublish.normalize, wireId_eq, normalize]

theorem publish3_normalize (p : V3.MqttPublish) :
    MqttPacket.publish3 p.normalize = (MqttPacket.publish3 p).normalize := by
  rw [V3.MqttPublish.normalize, wireId_eq, normalize]

/-! ## Dispatch on a frame -/

theorem tryFrom_code (kind : ControlPacketType) : ControlPacketType.tryFrom kind.code = .ok kind := by
  cases kind <;> rfl

theorem fromBytesWithVersion_five {kind : ControlPacketType} {first : UInt8} {body : Bytes}
    (h : first >>> 4 = kind.code) :
    fromBytesWithVersion true (frame first body) 5 = decoder5 kind true (frame first body) := by
  simp [fromBytesWithVersion, fromBytesV5, packetType_frame, h, tryFrom_code]

theorem fromBytesWithVersion_four {kind : ControlPacketType} {first : UInt8} {body : Bytes}
    (h : first >>> 4 = kind.code) :
    fromBytesWithVersion true (frame first body) 4 = decoder3 kind true (frame first body) := by
  simp [fromBytesWithVersion, fromBytesV3, packetType_frame, h, tryFrom_code]

/-- What the strict encoder writes is a frame that starts with the type of the packet. -/
theorem toBytes_frame {p : MqttPacket} {b : Bytes} (h : p.toBytes true = .ok b) :
    ∃ first body, b = frame first body ∧ first >>> 4 = p.packetType.code := by
  cases p
  case publish5 p =>
    obtain ⟨props, hvalid, -, -, -, rfl⟩ := V5.MqttPublish.toBytes_ok h
    have hv := hvalid rfl
    rw [V5.MqttPublish.validate, check_bind_eq_ok] at hv
    exact ⟨_, _, rfl, (V5.MqttPublish.flags_decode (V5.publish_validate_ok hv.1).1).1⟩
  case publish3 p =>
    obtain ⟨hvalid, -, rfl⟩ := V3.MqttPublish.toBytes_ok h
    have hv := hvalid rfl
    rw [V3.MqttPublish.validate, check_bind_eq_ok] at hv
    exact ⟨_, _, rfl, (V3.MqttPublish.flags_decode (V5.publish_validate_ok hv.1).1).1⟩
  all_goals
    obtain ⟨vhdr, pl, -, -, -, rfl⟩ := encodePacket_ok h
    exact ⟨_, _, rfl, rfl⟩

/-- Encode/decode round trip of the strict build. -/
theorem fromBytesWithVersion_toBytes (p : MqttPacket) (b : Bytes) (hconnect : p.isConnect = false)
    (h : p.toBytes true = .ok b) (hlen : remainingLength b ≤ 268435455) :
    fromBytesWithVersion true b p.wireVersion = .ok (.packet p.normalize b.length) := by
  obtain ⟨first, body, rfl, hkind⟩ := toBytes_frame h
  cases p <;> simp only [wireVersion, packetType, isConnect, reduceCtorEq] at hconnect hkind ⊢
  case connAck5 p =>
    rw [fromBytesWithVersion_five hkind, ← connAck5_normalize]
    exact V5.MqttConnAck.fromBytes_toBytes h hlen
  case publish5 p =>
    rw [fromBytesWithVersion_five hkind, ← publish5_normalize]
    exact V5.MqttPublish.fromBytes_toBytes h hlen
  case pubAck5 p | pubRec5 p | pubRel5 p | pubComp5 p =>
    rw [fromBytesWithVersion_five hkind]
    exact V5.PacketIdAck.fromBytes_toBytes _ rfl rfl rfl h hlen
  case subscribe5 p =>
    rw [fromBytesWithVersion_five hkind]
    exact V5.MqttSubscribe.fromBytes_toBytes h hlen
  case subAck5 p =>
    rw [fromBytesWithVersion_five hkind]
    exact V5.MqttSubAck.fromBytes_toBytes h hlen
  case unsubscribe5 p =>
    rw [fromBytesWithVersion_five hkind]
    exact V5.MqttUnsubscribe.fromBytes_toBytes h hlen
  case unsubAck5 p =>
    rw [fromBytesWithVersion_five hkind]
    exact V5.MqttUnsubAck.fromBytes_toBytes h hlen
  case disconnect5 p =>
    rw [fromBytesWithVersion_five hkind]
    exact V5.MqttDisconnect.fromBytes_toBytes h hlen
  case auth p =>
    rw [fromBytesWithVersion_five hkind]
    exact V5.MqttAuth.fromBytes_toBytes h hlen
  case pingReq5 | pingResp5 =>
    obtain ⟨vhdr, pl, -, hvhdr, hpl, hb⟩ := encodePacket_ok h
    obtain rfl := Except.ok.inj hvhdr
    obtain rfl := Except.ok.inj hpl
    rw [fromBytesWithVersion_five hkind, hb]
    exact V5.pingFromBytes_frame rfl rfl
  case connAck3 p =>
    rw [fromBytesWithVersion_four hkind]
    exact V3.MqttConnAck.fromBytes_toBytes h
  case publish3 p =>
    rw [fromBytesWithVersion_four hkind, ← publish3_normalize]
    exact V3.MqttPublish.fromBytes_toBytes h hlen
  case pubAck3 p | pubRec3 p | pubRel3 p | pubComp3 p | unsubAck3 p =>
    rw [fromBytesWithVersion_four hkind]
    exact V3.PacketIdAck.fromBytes_toBytes _ rfl rfl rfl h
  case subscribe3 p =>
    rw [fromBytesWithVersion_four hkind]
    exact V3.MqttSubscribe.fromBytes_toBytes h hlen
  case subAck3 p =>
    rw [fromBytesWithVersion_four hkind]
    exact V3.MqttSubAck.fromBytes_toBytes h hlen
  case unsubscribe3 p =>
    rw [fromBytesWithVersion_four hkind]
    exact V3.MqttUnsubscribe.fromBytes_toBytes h hlen
  case pingReq3 | pingResp3 =>
    obtain ⟨vhdr, pl, -, hvhdr, hpl, hb⟩ := encodePacket_ok h
    obtain rfl := Except.ok.inj hvhdr
    obtain rfl := Except.ok.inj hpl
    rw [fromBytesWithVersion_four hkind, hb]
    exact V3.pingFromBytes_frame rfl rfl
  case disconnect3 =>
    obtain ⟨vhdr, pl, -, hvhdr, hpl, hb⟩ := encodePacket_ok h
    obtain rfl := Except.ok.inj hvhdr
    obtain rfl := Except.ok.inj hpl
    rw [fromBytesWithVersion_four hkind, hb]
    exact V3.MqttDisconnect.fromBytes_frame

/-- A QoS 1 publish with a user property, written and read back. -/
theorem fromBytesWithVersion_toBytes_publish :
    fromBytesWithVersion true [50, 16, 0, 1, 116, 0, 7, 7, 38, 0, 1, 107, 0, 1, 118, 1, 2, 3] 5 =
      .ok (.packet (.publish5
        ⟨"t", 1, false, false, some 7, [1, 2, 3], [.userProperty "k" "v"]⟩) 18) :=
  fromBytesWithVersion_toBytes
    (.publish5 ⟨"t", 1, false, false, some 7, [1, 2, 3], [.userProperty "k" "v"]⟩)
    [50, 16, 0, 1, 116, 0, 7, 7, 38, 0, 1, 107, 0, 1, 118, 1, 2, 3] rfl (by decide) (by decide)

end MqttPacket

end FlowSdk
