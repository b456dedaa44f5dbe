/-
  FlowSdk.Serde.Accepted — what the strict decoder makes sure of.

  Every decoder ends with the validation of the packet it has read, whatever the buffer holds
  behind it. The decoder of CONNECT in MQTT 5 makes sure of more: an optional field that is there
  is not empty, and a will has only its own properties, with values that are allowed.

  Main result: `fromBytesWithVersion_accepted`.
-/
import FlowSdk.Serde.Canonical5

namespace FlowSdk

open Wire

/-- The will properties that the strict decoder has read. -/
def V5.MqttConnect.WillChecked (c : V5.MqttConnect) : Prop :=
  ∀ will ∈ c.will, Validation.properties will.properties.toList .will = .ok ()

structure Accepted (p : MqttPacket) : Prop where
  valid : p.validateStrict = .ok ()
  connect5 : ∀ c, p = .connect5 c → c.ReadsBack ∧ c.WillChecked

/-- The packet of an answer, if there is one, is accepted. -/
def Accepts (answer : ParseOk) : Prop := ∀ p n, answer = .packet p n → Accepted p

section Blocks

variable {p : MqttPacket} {n : Nat}

theorem accepts_continue (hint consumed : Nat) : Accepts (.continue hint consumed) :=
  fun _ _ heq => nomatch heq

theorem accepts_packet (h : Accepted p) : Accepts (.packet p n) := by
  intro p' n' heq
  cases heq
  exact h

theorem validatedPacket_accepts (h : ∀ c, p = .connect5 c → c.ReadsBack ∧ c.WillChecked) :
    Yields (validatedPacket true p n) Accepts :=
  .bind fun _ hvalid => .ok (accepts_packet ⟨check_eq_ok.mp hvalid, h⟩)

theorem withFrame_accepts {buffer : Bytes} {body : Nat → Nat → Nat → Decode ParseOk}
    (h : ∀ size offset totalLen, Yields (body size offset totalLen) Accepts) :
    Yields (withFrame true buffer body) Accepts := by
  refine .bind fun ⟨size, vbiLen⟩ _ => ?_
  dsimp only
  split
  · exact .ok (accepts_continue _ _)
  · exact h _ _ _

end Blocks

variable {f : Bytes}

/-! ## MQTT 5 -/

namespace V5

theorem readWill_checked {flags : UInt8} {n m : Nat} {will : Option Will}
    (h : readWill true f flags n = .ok (will, m)) :
    ∀ w ∈ will, Validation.properties w.properties.toList .will = .ok () := by
  obtain ⟨field, hfield, -⟩ := readWill_writes h
  intro w hw
  cases hw
  exact (check_bind_eq_ok.mp hfield).1

theorem MqttConnect.fromBytes_accepts : Yields (MqttConnect.fromBytes true f) Accepts := by
  refine .bind fun _ _ => .bind fun _ _ => withFrame_accepts fun _ _ _ => ?_
  refine .bind fun _ _ => .bind fun ⟨name, c₁⟩ _ => .rejectIf fun hmqtt => ?_
  refine .bind fun version _ => .bind fun flags _ => .bind fun _ _ => ?_
  refine .bind fun _ _ => .bind fun ⟨keepAlive, _⟩ _ => .bind fun _ _ => ?_
  refine .bind fun ⟨props, c₂⟩ _ => .bind fun _ _ => .bind fun ⟨client, c₃⟩ _ => ?_
  refine .bind fun ⟨will, n₁⟩ hwill => .bind fun ⟨username, n₂⟩ husername => ?_
  refine .bind fun ⟨password, n₃⟩ hpassword => .rejectIf fun _ => ?_
  refine validatedPacket_accepts fun c heq => ?_
  cases heq
  obtain ⟨_, _, _, hwillRead⟩ := readWill_writes hwill
  obtain ⟨_, _, _, huserRead⟩ := readUsername_writes husername
  obtain ⟨_, _, _, hpassRead⟩ := readPassword_writes hpassword
  exact ⟨⟨not_not.mp hmqtt, huserRead, hpassRead, hwillRead⟩, readWill_checked hwill⟩

theorem MqttConnAck.fromBytes_accepts : Yields (MqttConnAck.fromBytes true f) Accepts := by
  refine .bind fun _ _ => .bind fun _ _ => withFrame_accepts fun _ _ _ => ?_
  refine .bind fun _ _ => .bind fun _ _ => .bind fun _ _ => .bind fun _ _ => ?_
  exact .bind fun _ _ => .bind fun _ _ => validatedPacket_accepts fun _ heq => by cases heq

theorem MqttPublish.fromBytes_accepts : Yields (MqttPublish.fromBytes true f) Accepts := by
  refine .bind fun _ _ => .bind fun _ _ => .bind fun _ _ => .bind fun _ _ => ?_
  refine withFrame_accepts fun _ _ _ => .bind fun _ _ => .bind fun _ _ => .bind fun _ _ => ?_
  refine .bind fun _ _ => .bind fun _ _ => .bind fun _ _ => ?_
  dsimp only
  split
  · exact fun _ hpanic => by cases hpanic
  · exact .bind fun _ _ => .bind fun _ _ => validatedPacket_accepts fun _ heq => by cases heq

theorem PacketIdAck.fromBytes_accepts {kind : ControlPacketType} {flags : UInt8} {name : String}
    {mk : PacketIdAck → MqttPacket} (hmk : ∀ p c, mk p ≠ .connect5 c) :
    Yields (PacketIdAck.fromBytes kind flags name mk true f) Accepts := by
  refine .bind fun _ _ => .bind fun _ _ => withFrame_accepts fun _ _ _ => ?_
  refine .bind fun _ _ => .bind fun _ _ => .bind fun _ _ => .bind fun _ _ => ?_
  exact .bind fun _ _ => validatedPacket_accepts fun c heq => absurd heq (hmk _ c)

theorem MqttSubscribe.fromBytes_accepts : Yields (MqttSubscribe.fromBytes true f) Accepts := by
  refine .bind fun _ _ => .bind fun _ _ => withFrame_accepts fun _ _ _ => ?_
  refine .bind fun _ _ => .bind fun _ _ => .bind fun _ _ => .bind fun _ _ => .bind fun _ _ => ?_
  refine .bind fun _ _ => .bind fun _ _ => .bind fun _ _ => ?_
  exact validatedPacket_accepts fun _ heq => by cases heq

theorem subAckFromBytes_accepts {kind : ControlPacketType} {name : String}
    {mk : UInt16 → Bytes → Properties → MqttPacket} (hmk : ∀ id codes props c,
      mk id codes props ≠ .connect5 c) : Yields (subAckFromBytes kind name mk true f) Accepts := by
  refine .bind fun _ _ => .bind fun _ _ => withFrame_accepts fun _ _ _ => ?_
  refine .bind fun _ _ => .bind fun _ _ => .bind fun _ _ => .bind fun _ _ => .bind fun _ _ => ?_
  refine .bind fun _ _ => .bind fun _ _ => ?_
  exact validatedPacket_accepts fun c heq => absurd heq (hmk _ _ _ c)

theorem MqttUnsubscribe.fromBytes_accepts : Yields (MqttUnsubscribe.fromBytes true f) Accepts := by
  refine .bind fun _ _ => .bind fun _ _ => withFrame_accepts fun _ _ _ => ?_
  refine .bind fun _ _ => .bind fun _ _ => .bind fun _ _ => .bind fun _ _ => .bind fun _ _ => ?_
  refine .bind fun _ _ => .bind fun _ _ => .bind fun _ _ => ?_
  exact validatedPacket_accepts fun _ heq => by cases heq

theorem pingFromBytes_accepts {kind : ControlPacketType} {name : String} {p : MqttPacket}
    (hp : Accepted p) : Yields (pingFromBytes kind name p true f) Accepts :=
  .bind fun _ _ => withFrame_accepts fun _ _ _ => .bind fun _ _ => .bind fun _ _ =>
    .ok (accepts_packet hp)

theorem MqttDisconnect.fromBytes_accepts : Yields (MqttDisconnect.fromBytes true f) Accepts :=
  .bind fun _ _ => withFrame_accepts fun _ _ _ => .bind fun _ _ => .bind fun _ _ => .bind fun _ _ =>
    validatedPacket_accepts fun _ heq => by cases heq

theorem MqttAuth.fromBytes_accepts : Yields (MqttAuth.fromBytes true f) Accepts := by
  refine .bind fun _ _ => withFrame_accepts fun _ _ _ => .bind fun _ _ => ?_
  split
  · exact validatedPacket_accepts fun _ heq => by cases heq
  · refine .bind fun _ _ => .bind fun _ _ => .bind fun _ _ => .bind fun _ _ => .bind fun _ _ => ?_
    exact validatedPacket_accepts fun _ heq => by cases heq

end V5

/-! ## MQTT 3 -/

namespace V3

theorem MqttConnect.fromBytes_accepts : Yields (MqttConnect.fromBytes true f) Accepts := by
  refine .bind fun _ _ => .bind fun _ _ => withFrame_accepts fun _ _ _ => ?_
  refine .bind fun _ _ => .bind fun _ _ => .bind fun _ _ => .bind fun _ _ => .bind fun _ _ => ?_
  refine .bind fun _ _ => .bind fun _ _ => .bind fun _ _ => .bind fun _ _ => .bind fun _ _ => ?_
  refine .bind fun _ _ => .bind fun _ _ => .bind fun _ _ => .bind fun _ _ => .bind fun _ _ => ?_
  refine .bind fun _ _ => .bind fun _ _ => ?_
  exact validatedPacket_accepts fun _ heq => by cases heq

theorem MqttConnAck.fromBytes_accepts : Yields (MqttConnAck.fromBytes true f) Accepts := by
  refine .bind fun _ _ => .bind fun _ _ => withFrame_accepts fun _ _ _ => ?_
  refine .bind fun _ _ => .bind fun _ _ => .bind fun _ _ => .bind fun _ _ => .bind fun _ _ => ?_
  exact validatedPacket_accepts fun _ heq => by cases heq

theorem MqttPublish.fromBytes_accepts : Yields (MqttPublish.fromBytes true f) Accepts := by
  refine .bind fun _ _ => .bind fun _ _ => withFrame_accepts fun _ _ _ => ?_
  refine .bind fun _ _ => .bind fun _ _ => .bind fun _ _ => .bind fun _ _ => ?_
  exact validatedPacket_accepts fun _ heq => by cases heq

theorem PacketIdAck.fromBytes_accepts {kind : ControlPacketType} {flags : UInt8} {name : String}
    {mk : PacketIdAck → MqttPacket} (hmk : ∀ p c, mk p ≠ .connect5 c) :
    Yields (PacketIdAck.fromBytes kind flags name mk true f) Accepts := by
  refine .bind fun _ _ => .bind fun _ _ => withFrame_accepts fun _ _ _ => ?_
  exact .bind fun _ _ => .bind fun _ _ => validatedPacket_accepts fun c heq => absurd heq (hmk _ c)

theorem MqttSubscribe.fromBytes_accepts : Yields (MqttSubscribe.fromBytes true f) Accepts := by
  refine .bind fun _ _ => .bind fun _ _ => withFrame_accepts fun _ _ _ => ?_
  refine .bind fun _ _ => .bind fun _ _ => .bind fun _ _ => .bind fun _ _ => ?_
  exact validatedPacket_accepts fun _ heq => by cases heq

theorem MqttSubAck.fromBytes_accepts : Yields (MqttSubAck.fromBytes true f) Accepts := by
  refine .bind fun _ _ => .bind fun _ _ => withFrame_accepts fun _ _ _ => ?_
  refine .bind fun _ _ => .bind fun _ _ => .bind fun _ _ => .bind fun _ _ => ?_
  exact validatedPacket_accepts fun _ heq => by cases heq

theorem MqttUnsubscribe.fromBytes_accepts : Yields (MqttUnsubscribe.fromBytes true f) Accepts := by
  refine .bind fun _ _ => .bind fun _ _ => withFrame_accepts fun _ _ _ => ?_
  refine .bind fun _ _ => .bind fun _ _ => .bind fun _ _ => .bind fun _ _ => ?_
  exact validatedPacket_accepts fun _ heq => by cases heq

theorem pingFromBytes_accepts {kind : ControlPacketType} {name : String} {p : MqttPacket}
    (hp : Accepted p) : Yields (pingFromBytes kind name p true f) Accepts := by
  refine .bind fun _ _ => .bind fun _ _ => ?_
  split
  · exact .ok (accepts_continue _ _)
  · exact withFrame_accepts fun _ _ _ => .bind fun _ _ => .ok (accepts_packet hp)

theorem MqttDisconnect.fromBytes_accepts : Yields (MqttDisconnect.fromBytes true f) Accepts :=
  .bind fun _ _ => .bind fun _ _ => withFrame_accepts fun _ _ _ => .bind fun _ _ =>
    .ok (accepts_packet ⟨rfl, fun _ heq => by cases heq⟩)

end V3

/-! ## Dispatch -/

namespace MqttPacket

theorem decoder5_accepts (kind : ControlPacketType) : Yields (decoder5 kind true f) Accepts := by
  cases kind
  case connect => exact V5.MqttConnect.fromBytes_accepts
  case connack => exact V5.MqttConnAck.fromBytes_accepts
  case publish => exact V5.MqttPublish.fromBytes_accepts
  case puback | pubrec | pubrel | pubcomp =>
    exact V5.PacketIdAck.fromBytes_accepts fun _ _ heq => nomatch heq
  case subscribe => exact V5.MqttSubscribe.fromBytes_accepts
  case suback =>
    unfold decoder5 V5.MqttSubAck.fromBytes
    exact V5.subAckFromBytes_accepts fun _ _ _ _ heq => nomatch heq
  case unsuback =>
    unfold decoder5 V5.MqttUnsubAck.fromBytes
    exact V5.subAckFromBytes_accepts fun _ _ _ _ heq => nomatch heq
  case unsubscribe => exact V5.MqttUnsubscribe.fromBytes_accepts
  case pingreq | pingresp => exact V5.pingFromBytes_accepts ⟨rfl, fun _ heq => by cases heq⟩
  case disconnect => exact V5.MqttDisconnect.fromBytes_accepts
  case auth => exact V5.MqttAuth.fromBytes_accepts

theorem decoder3_accepts (kind : ControlPacketType) : Yields (decoder3 kind true f) Accepts := by
  cases kind
  case connect => exact V3.MqttConnect.fromBytes_accepts
  case connack => exact V3.MqttConnAck.fromBytes_accepts
  case publish => exact V3.MqttPublish.fromBytes_accepts
  case puback | pubrec | pubrel | pubcomp | unsuback =>
    exact V3.PacketIdAck.fromBytes_accepts fun _ _ heq => nomatch heq
  case subscribe => exact V3.MqttSubscribe.fromBytes_accepts
  case suback => exact V3.MqttSubAck.fromBytes_accepts
  case unsubscribe => exact V3.MqttUnsubscribe.fromBytes_accepts
  case pingreq | pingresp => exact V3.pingFromBytes_accepts ⟨rfl, fun _ heq => by cases heq⟩
  case disconnect => exact V3.MqttDisconnect.fromBytes_accepts
  case auth => exact fun _ hfail => nomatch hfail

theorem fromBytesWithVersion_accepted {v : UInt8} {p : MqttPacket} {n : Nat}
    (h : fromBytesWithVersion true f v = .ok (.packet p n)) : Accepted p := by
  have hdecoded : Yields (fromBytesWithVersion true f v) Accepts := by
    unfold fromBytesWithVersion
    split
    · exact .bind fun _ _ => .bind fun kind _ => decoder3_accepts kind
    · exact .bind fun _ _ => .bind fun kind _ => decoder3_accepts kind
    · exact .bind fun _ _ => .bind fun kind _ => decoder5_accepts kind
    · exact fun _ hfail => nomatch hfail
  exact hdecoded _ h p n rfl

end MqttPacket

end FlowSdk
