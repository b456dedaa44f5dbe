/-
  FlowSdk.Serde.Canonical5 — MQTT 5: what the strict decoders accept is written and read back.

  A decoder accepts several forms of one packet: reason codes and property sections may be left
  out, and the properties of a will come in any order. Each form leads to a packet that passes
  the checks of its encoder and fits into a frame, and the frame is read back to that packet.

  Main results:
    1. `V5.Will.fromBytes_writes`   will properties in any order
    2. `fromBytes_repeats`           one per decoder
-/
import FlowSdk.Serde.Body
import FlowSdk.Serde.Connect
import FlowSdk.Serde.FieldSize

namespace FlowSdk

open Wire

/-! ## Writing a packet again -/

/-- The packet can be written, and the decoder reads it back from what was written. -/
def Returns (decode : Bool → Bytes → Decode ParseOk) (p : MqttPacket) : Prop :=
  ∃ g, p.toBytes true = .ok g ∧ decode true g = .ok (.packet p g.length)

/-- An answer of the decoder that it would give again. -/
def Repeats (decode : Bool → Bytes → Decode ParseOk) (answer : ParseOk) : Prop :=
  ∀ p n, answer = .packet p n → Returns decode p

theorem Repeats.packet {decode : Bool → Bytes → Decode ParseOk} {p : MqttPacket} {n : Nat}
    (h : Returns decode p) : Repeats decode (.packet p n) := by
  intro p' n' heq
  cases heq
  exact h

theorem validatedPacket_repeats {decode : Bool → Bytes → Decode ParseOk} {p : MqttPacket} {n : Nat}
    (h : p.validateStrict = .ok () → Returns decode p) :
    Yields (validatedPacket true p n) (Repeats decode) := by
  refine .bind fun _ hvalid => .ok (.packet (h ?_))
  exact check_eq_ok.mp hvalid

theorem encodePacket_writes {kind : ControlPacketType} {flags : UInt8}
    {validate : Except ParseError Unit} {variableHeader payload : Except ParseError Bytes}
    {vhdr pl : Bytes} (hvalid : validate = .ok ()) (hvhdr : variableHeader = .ok vhdr)
    (hpl : payload = .ok pl) :
    encodePacket kind flags validate variableHeader payload =
      .ok (frame ((kind.code <<< 4) ||| flags) (vhdr ++ pl)) := by
  unfold encodePacket
  rw [hvalid, hvhdr, hpl, frame, frameHeader, List.length_append, ← List.append_assoc]
  rfl

/-- A packet of the default encoder, once its parts are known. -/
theorem Returns.of_encodePacket {decode : Bool → Bytes → Decode ParseOk} {p : MqttPacket}
    {kind : ControlPacketType} {flags : UInt8} {validate : Except ParseError Unit}
    {variableHeader payload : Except ParseError Bytes} {vhdr pl : Bytes}
    (hp : p.toBytes true = encodePacket kind flags validate variableHeader payload)
    (hvalid : validate = .ok ()) (hvhdr : variableHeader = .ok vhdr) (hpl : payload = .ok pl)
    (hlen : vhdr.length + pl.length ≤ VariableByteInteger.maxValue)
    (hread : ∀ g, p.toBytes true = .ok g → remainingLength g ≤ VariableByteInteger.maxValue →
      decode true g = .ok (.packet p g.length)) : Returns decode p := by
  have hwrite := hp.trans (encodePacket_writes hvalid hvhdr hpl)
  refine ⟨_, hwrite, hread _ hwrite ?_⟩
  rwa [remainingLength_frame, List.length_append]

theorem encodeEach_writes {α : Type} {encode : α → Except ParseError Bytes} {enc : α → Bytes} :
    ∀ {items : List α}, (∀ a ∈ items, encode a = .ok (enc a)) →
      encodeEach encode items = .ok (items.flatMap enc)
  | [], _ => rfl
  | a :: items, h => by
    obtain ⟨ha, hitems⟩ := List.forall_mem_cons.mp h
    rw [encodeEach, ha, ok_bind, encodeEach_writes hitems]
    rfl

/-! ## Will properties -/

namespace Validation

/-- The order of the properties does not matter, apart from the dependency CONNECT has. -/
def Admissible (context : PropertyContext) (ps : Properties) : Prop :=
  (∀ p ∈ ps, allowedIn context p.id = true ∧ propertyValue p = .ok ()) ∧
    ps.Pairwise fun p q => p.id = q.id → repeatable context p.id = true

theorem once_symm {context : PropertyContext} {p q : Property}
    (h : p.id = q.id → repeatable context p.id = true) (heq : q.id = p.id) :
    repeatable context q.id = true := by
  rw [heq]
  exact h heq.symm

theorem Admissible.perm {context : PropertyContext} {ps qs : Properties} (h : Admissible context ps)
    (hperm : ps.Perm qs) : Admissible context qs := by
  exact ⟨fun p hp => h.1 p (hperm.mem_iff.mpr hp), (hperm.pairwise_iff once_symm).mp h.2⟩

theorem propertiesLoop_iff {context : PropertyContext} : ∀ {ps : Properties} {seen : List PropertyID},
    (∃ all, propertiesLoop context ps seen = .ok all) ↔ Admissible context ps ∧
      ∀ p ∈ ps, p.id ∈ seen → repeatable context p.id = true
  | [], seen => by
    refine ⟨fun _ => ⟨⟨?_, .nil⟩, ?_⟩, fun _ => ⟨seen, rfl⟩⟩ <;> exact fun p hp => nomatch hp
  | p :: ps, seen => by
    simp only [propertiesLoop, check_bind_eq_ok, require_eq_ok, exists_and_left, propertiesLoop_iff]
    constructor
    · rintro ⟨hallowed, hseen, hvalue, ⟨hall, hpair⟩, hrest⟩
      refine ⟨⟨List.forall_mem_cons.mpr ⟨⟨hallowed, hvalue⟩, hall⟩, .cons ?_ hpair⟩,
        List.forall_mem_cons.mpr ⟨fun hmem => hseen.resolve_right (not_not_intro hmem), ?_⟩⟩
      · intro q hq heq
        rw [heq]
        exact hrest q hq (heq ▸ List.mem_cons_self)
      · exact fun q hq hmem => hrest q hq (List.mem_cons_of_mem _ hmem)
    · rintro ⟨⟨hall, hpair⟩, hseen⟩
      obtain ⟨⟨hallowed, hvalue⟩, hall⟩ := List.forall_mem_cons.mp hall
      obtain ⟨hfirst, hpair⟩ := List.pairwise_cons.mp hpair
      obtain ⟨hp, hseen⟩ := List.forall_mem_cons.mp hseen
      refine ⟨hallowed, Decidable.or_iff_not_imp_right.mpr fun h => hp (not_not.mp h), hvalue,
        ⟨hall, hpair⟩, fun q hq hmem => ?_⟩
      rcases List.mem_cons.mp hmem with heq | hmem
      · rw [heq]
        exact hfirst q hq heq.symm
      · exact hseen q hq hmem

theorem properties_iff {context : PropertyContext} {ps : Properties} (h : context ≠ .connect) :
    properties ps context = .ok () ↔ Admissible context ps := by
  have hloop : (∃ all, propertiesLoop context ps [] = .ok all) ↔ Admissible context ps ∧
      ∀ p ∈ ps, p.id ∈ [] → repeatable context p.id = true := propertiesLoop_iff
  simp only [List.not_mem_nil, false_implies, implies_true, and_true] at hloop
  rw [← hloop]
  unfold properties
  cases propertiesLoop context ps [] with
  | error e => exact ⟨(fun h => nomatch h), (fun ⟨_, h⟩ => nomatch h)⟩
  | ok all =>
    rw [ok_bind, if_neg h]
    exact ⟨fun _ => ⟨all, rfl⟩, fun _ => rfl⟩

end Validation

namespace V5

open Validation

/-- The field of a property that may come only once is still empty. -/
theorem WillProperties.slot_free {α : Type} {w : WillProperties} {p : Property} (mk : α → Property)
    (slot : Option α) (hnew : ∀ q ∈ w.toList, q.id = p.id → repeatable .will q.id = true)
    (hmem : ∀ v, slot = some v → mk v ∈ w.toList) (hid : ∀ v, (mk v).id = p.id)
    (honce : repeatable .will p.id = false) : slot = none := by
  cases slot with
  | none => rfl
  | some v =>
    have hrepeat := hnew (mk v) (hmem v rfl) (hid v)
    rw [hid, honce] at hrepeat
    cases hrepeat

/-- A property that is not there yet is added to the list, at its own place. -/
theorem WillProperties.toList_set {w : WillProperties} {p : Property}
    (hallowed : allowedIn .will p.id = true)
    (hnew : ∀ q ∈ w.toList, q.id = p.id → repeatable .will q.id = true) :
    (w.set p).toList.Perm (w.toList ++ [p]) := by
  obtain ⟨delay, format, expiry, content, response, correlation, users⟩ := w
  rw [List.perm_iff_count]
  intro a
  cases p <;> simp only [Property.id, allowedIn] at hallowed <;> try exact absurd hallowed (by decide)
  case userProperty k v =>
    simp only [WillProperties.set, WillProperties.toList, List.count_append]
    omega
  case' willDelayInterval v =>
    obtain rfl := slot_free .willDelayInterval delay hnew
      (fun _ h => by simp [WillProperties.toList, h]) (fun _ => rfl) rfl
  case' payloadFormatIndicator v =>
    obtain rfl := slot_free .payloadFormatIndicator format hnew
      (fun _ h => by simp [WillProperties.toList, h]) (fun _ => rfl) rfl
  case' messageExpiryInterval v =>
    obtain rfl := slot_free .messageExpiryInterval expiry hnew
      (fun _ h => by simp [WillProperties.toList, h]) (fun _ => rfl) rfl
  case' contentType v =>
    obtain rfl := slot_free .contentType content hnew
      (fun _ h => by simp [WillProperties.toList, h]) (fun _ => rfl) rfl
  case' responseTopic v =>
    obtain rfl := slot_free .responseTopic response hnew
      (fun _ h => by simp [WillProperties.toList, h]) (fun _ => rfl) rfl
  case' correlationData v =>
    obtain rfl := slot_free .correlationData correlation hnew
      (fun _ h => by simp [WillProperties.toList, h]) (fun _ => rfl) rfl
  all_goals
    simp only [WillProperties.set, WillProperties.toList, List.count_append, Option.map_none,
      Option.map_some, Option.toList_none, Option.toList_some, List.count_nil]
    omega

theorem WillProperties.toList_foldl : ∀ {ps : Properties} {w : WillProperties},
    (∀ p ∈ ps, allowedIn .will p.id = true) →
    ((w.toList ++ ps).Pairwise fun p q => p.id = q.id → repeatable .will p.id = true) →
    (ps.foldl WillProperties.set w).toList.Perm (w.toList ++ ps)
  | [], w, _, _ => by
    rw [List.append_nil]
    exact .refl _
  | p :: ps, w, hallowed, hpair => by
    obtain ⟨hp, hps⟩ := List.forall_mem_cons.mp hallowed
    have hsplit : w.toList ++ p :: ps = w.toList ++ [p] ++ ps := by
      rw [List.append_assoc, List.singleton_append]
    have hset := toList_set hp fun q hq heq =>
      (List.pairwise_append.mp hpair).2.2 q hq p List.mem_cons_self heq
    have hnext : ((w.set p).toList ++ ps).Perm (w.toList ++ p :: ps) := by
      rw [hsplit]
      exact hset.append_right ps
    exact (toList_foldl hps ((hnext.pairwise_iff once_symm).mpr hpair)).trans hnext

theorem WillProperties.foldl_users {ps : Properties} {w : WillProperties}
    (hw : ∀ p ∈ w.userProperties, p.id = .userProperty) :
    ∀ p ∈ (ps.foldl WillProperties.set w).userProperties, p.id = .userProperty := by
  induction ps generalizing w with
  | nil => exact hw
  | cons p ps ih =>
    refine ih ?_
    cases p
    case userProperty k v =>
      intro q hq
      rcases List.mem_append.mp hq with hq | hq
      · exact hw q hq
      · rw [List.mem_singleton.mp hq]
        rfl
    all_goals exact hw

theorem propertySection_perm {ps qs : Properties} (h : ps.Perm qs) :
    (propertySection ps).length = (propertySection qs).length := by
  have hbody := (h.flatMap_right Property.encodeValidated).length_eq
  unfold propertySection
  rw [List.length_append, List.length_append, hbody]

theorem Will.fromBytes_writes {s : Bytes} {flags : UInt8} {will : Will} {n : Nat}
    (h : Will.fromBytes true s flags = .ok (will, n)) :
    ∃ field, will.payload true = .ok field ∧ field.length ≤ n ∧
      ∀ prop ∈ will.properties.userProperties, prop.id = .userProperty := by
  obtain ⟨⟨props, offset⟩, hprops, h⟩ := bind_eq_ok.mp h
  obtain ⟨hvalid, h⟩ := check_bind_eq_ok.mp h
  obtain ⟨slice, -, h⟩ := bind_eq_ok.mp h
  obtain ⟨⟨topic, c₁⟩, htopic, h⟩ := bind_eq_ok.mp h
  obtain ⟨slice, -, h⟩ := bind_eq_ok.mp h
  obtain ⟨⟨message, c₂⟩, hmessage, heq⟩ := bind_eq_ok.mp h
  cases heq
  have hok : Admissible .will props := (properties_iff (by decide)).mp (check_eq_ok.mp hvalid)
  have hperm : (props.foldl WillProperties.set .empty).toList.Perm props :=
    WillProperties.toList_foldl (w := .empty) (fun p hp => (hok.1 p hp).1) hok.2
  have hlist := hok.perm hperm.symm
  obtain ⟨-, hsize⟩ := parsePropertiesHdr_writes hprops
  obtain ⟨htext, rfl⟩ := Utf8String.decode_writes htopic
  obtain ⟨hdata, rfl⟩ := BinaryData.decode_writes hmessage
  refine ⟨propertySection (props.foldl WillProperties.set .empty).toList ++
    Utf8String.encode topic ++ BinaryData.encode message, ?_, ?_, ?_⟩
  · unfold Will.payload
    dsimp only
    rw [onlyIf_true, (properties_iff (by decide)).mpr hlist, ok_bind,
      encodeProperitiesHdr_writes fun p hp => (hlist.1 p hp).2, ok_bind,
      encodeUtf8String_writes htext, ok_bind, encodeBinaryData_writes hdata]
    rfl
  · rw [List.length_append, List.length_append, propertySection_perm hperm,
      Utf8String.encode_length, BinaryData.encode_length]
    omega
  · exact WillProperties.foldl_users fun p hp => nomatch hp

/-! ## MQTT 5 -/

section Packets

variable {f : Bytes} {size offset : Nat}

theorem TopicSubscription.fromBytes_writes {s : Bytes} {sub : TopicSubscription} {n : Nat}
    (h : TopicSubscription.fromBytes true s = .ok (sub, n)) :
    sub.toBytes true = .ok sub.wire ∧ sub.wire.length ≤ n := by
  obtain ⟨slice, -, h⟩ := bind_eq_ok.mp h
  obtain ⟨⟨filter, c⟩, hfilter, h⟩ := bind_eq_ok.mp h
  obtain ⟨-, h⟩ := check_bind_eq_ok.mp h
  obtain ⟨options, -, h⟩ := bind_eq_ok.mp h
  obtain ⟨-, h⟩ := check_bind_eq_ok.mp h
  obtain ⟨-, h⟩ := check_bind_eq_ok.mp h
  obtain ⟨hvalid, heq⟩ := check_bind_eq_ok.mp h
  cases heq
  obtain ⟨htext, rfl⟩ := Utf8String.decode_writes hfilter
  refine ⟨?_, Nat.le_of_eq ?_⟩
  · unfold TopicSubscription.toBytes
    rw [onlyIf_true, check_eq_ok.mp hvalid, ok_bind, encodeUtf8String_writes htext]
    rfl
  · rw [TopicSubscription.wire, List.length_append, Utf8String.encode_length,
      List.length_singleton]

theorem MqttSubscribe.fromBytes_repeats (h : HasBody true f size offset)
    (hsize : size ≤ VariableByteInteger.maxValue) :
    Yields (MqttSubscribe.fromBytes true f) (Repeats MqttSubscribe.fromBytes) := by
  refine .bind fun _ _ => .bind fun _ _ => ?_
  rw [h.withFrame_eq]
  refine .read h.start (getFrom_place h.start) TwoByteInteger.decode_local.sound
    fun id c hid hplace => .rejectIf fun hzero => ?_
  refine .read hplace (getRange_to_end hplace) (parsePropertiesHdr_local true).sound
    fun props c hprops hplace => ?_
  refine .bind fun ⟨subs, last⟩ hsubs => .rejectIf fun hsome => .rejectIf fun hlast => ?_
  obtain rfl := TwoByteInteger.decode_length hid
  obtain ⟨hvalues, hsection⟩ := parsePropertiesHdr_writes hprops
  obtain ⟨hwrites, hsum⟩ := readMany_size (fun sub => sub.toBytes true = .ok sub.wire)
    (fun sub => sub.wire.length) (fun {n sub c} hread => by
      obtain ⟨slice, -, hread⟩ := bind_eq_ok.mp hread
      exact TopicSubscription.fromBytes_writes hread) hsubs
  have hvhdr : MqttSubscribe.variableHeader true ⟨id, subs, props⟩ =
      .ok (TwoByteInteger.encode id ++ propertySection props) := by
    unfold MqttSubscribe.variableHeader
    rw [rejectIf_neg _ hzero, ok_bind, encodeProperitiesHdr_writes hvalues]
    rfl
  have hpl : MqttSubscribe.payload true ⟨id, subs, props⟩ =
      .ok (subs.flatMap TopicSubscription.wire) := by
    unfold MqttSubscribe.payload
    rw [rejectIf_neg _ hsome, ok_bind, encodeEach_writes hwrites]
  refine validatedPacket_repeats fun hvalid => .of_encodePacket rfl hvalid hvhdr hpl ?_
    fun g hg hlen => MqttSubscribe.fromBytes_toBytes hg hlen
  have htotal := h.total
  rw [List.length_append, TwoByteInteger.encode_length, List.length_flatMap]
  omega

theorem MqttUnsubscribe.fromBytes_repeats (h : HasBody true f size offset)
    (hsize : size ≤ VariableByteInteger.maxValue) :
    Yields (MqttUnsubscribe.fromBytes true f) (Repeats MqttUnsubscribe.fromBytes) := by
  refine .bind fun _ _ => .bind fun _ _ => ?_
  rw [h.withFrame_eq]
  refine .bind fun _ _ => .bind fun ⟨id, c₁⟩ hid => .rejectIf fun hzero => ?_
  refine .bind fun _ _ => .bind fun ⟨props, c₂⟩ hprops => ?_
  refine .bind fun ⟨filters, last⟩ hfilters => .rejectIf fun hsome => .rejectIf fun hlast => ?_
  obtain rfl := TwoByteInteger.decode_length hid
  obtain ⟨hvalues, hsection⟩ := parsePropertiesHdr_writes hprops
  obtain ⟨hwrites, hsum⟩ := readMany_size
    (fun filter => encodeUtf8String true filter = .ok (Utf8String.encode filter))
    (fun filter => (Utf8String.encode filter).length) (fun {n filter c} hread => by
      obtain ⟨slice, -, hread⟩ := bind_eq_ok.mp hread
      obtain ⟨htext, rfl⟩ := Utf8String.decode_writes hread
      exact ⟨encodeUtf8String_writes htext, Nat.le_of_eq (Utf8String.encode_length _)⟩) hfilters
  have hvhdr : MqttUnsubscribe.variableHeader true ⟨id, filters, props⟩ =
      .ok (TwoByteInteger.encode id ++ propertySection props) := by
    unfold MqttUnsubscribe.variableHeader
    rw [rejectIf_neg _ hzero, ok_bind, encodeProperitiesHdr_writes hvalues]
    rfl
  have hpl : MqttUnsubscribe.payload true ⟨id, filters, props⟩ =
      .ok (filters.flatMap Utf8String.encode) := by
    unfold MqttUnsubscribe.payload
    rw [rejectIf_neg _ hsome, ok_bind, encodeEach_writes hwrites]
  refine validatedPacket_repeats fun hvalid => .of_encodePacket rfl hvalid hvhdr hpl ?_
    fun g hg hlen => MqttUnsubscribe.fromBytes_toBytes hg hlen
  have htotal := h.total
  rw [List.length_append, TwoByteInteger.encode_length, List.length_flatMap]
  omega

/-- The decoder of SUBACK and UNSUBACK. -/
theorem subAckFromBytes_repeats {kind : ControlPacketType} {name : String}
    {mk : UInt16 → Bytes → Properties → MqttPacket}
    (hmk : ∀ id codes props, (mk id codes props).toBytes true =
      encodePacket kind 0 (mk id codes props).validateStrict
        (subAckVariableHeader name true id props) (subAckPayload name true codes))
    (hkind : ((kind.code <<< 4) ||| 0) >>> 4 = kind.code)
    (hfixed : Validation.fixedHeader ((kind.code <<< 4) ||| 0) = .ok ())
    (h : HasBody true f size offset) (hsize : size ≤ VariableByteInteger.maxValue) :
    Yields (subAckFromBytes kind name mk true f) (Repeats (subAckFromBytes kind name mk)) := by
  refine .bind fun _ _ => .bind fun _ _ => ?_
  rw [h.withFrame_eq]
  refine .read h.start (getFrom_place h.start) TwoByteInteger.decode_local.sound
    fun id c hid hplace => .rejectIf fun hzero => ?_
  refine .read hplace (getRange_to_end hplace) (parsePropertiesHdr_local true).sound
    fun props c hprops hplace => ?_
  dsimp only
  rw [getRange_to_end hplace, ok_bind]
  refine .rejectIf fun hsome => validatedPacket_repeats fun hvalid => ?_
  obtain rfl := TwoByteInteger.decode_length hid
  obtain ⟨hvalues, hsection⟩ := parsePropertiesHdr_writes hprops
  have hlength := hplace.length
  generalize List.drop c _ = codes at hsome hvalid hlength ⊢
  have hvhdr : subAckVariableHeader name true id props =
      .ok (TwoByteInteger.encode id ++ propertySection props) := by
    unfold subAckVariableHeader
    rw [rejectIf_neg _ hzero, ok_bind, encodeProperitiesHdr_writes hvalues]
    rfl
  have hpl : subAckPayload name true codes = .ok codes := by
    unfold subAckPayload
    rw [rejectIf_neg _ hsome]
    rfl
  refine .of_encodePacket (hmk id codes props) hvalid hvhdr hpl ?_ fun g hg hlen => ?_
  · have htotal := h.total
    rw [List.length_append, TwoByteInteger.encode_length]
    omega
  · rw [hmk, encodePacket_writes hvalid hvhdr hpl] at hg
    cases hg
    rw [remainingLength_frame] at hlen
    exact subAckFromBytes_frame hkind hfixed hvalid hvhdr hpl hlen

/-! ### Packets with a short form -/

/-- The section that is left out is written with one byte. -/
theorem readProperties_writes {n : Nat} {props : Properties} {c : Nat}
    (h : readProperties true f n f.length = .ok (props, c)) :
    (∀ p ∈ props, propertyValue p = .ok ()) ∧
      (propertySection props).length ≤ max 1 (f.length - n) := by
  unfold readProperties at h
  split at h
  next hlt =>
    obtain ⟨slice, hslice, hprops⟩ := bind_eq_ok.mp h
    have hplace : At f n (f.drop n) := ⟨Nat.le_of_lt hlt, rfl⟩
    rw [getRange_to_end hplace] at hslice
    cases hslice
    obtain ⟨hvalues, hsection⟩ := parsePropertiesHdr_writes hprops
    have hle := (parsePropertiesHdr_local true).le hprops
    rw [List.length_drop] at hle
    exact ⟨hvalues, by omega⟩
  next =>
    cases h
    exact ⟨(fun p hp => by cases hp), Nat.le_max_left _ _⟩

theorem PacketIdAck.variableHeader_writes {p : PacketIdAck}
    (h : ∀ prop ∈ p.properties, propertyValue prop = .ok ()) :
    ∃ vhdr, p.variableHeader true = .ok vhdr ∧
      vhdr.length ≤ 3 + (propertySection p.properties).length := by
  unfold PacketIdAck.variableHeader
  split
  next => exact ⟨_, rfl, by rw [TwoByteInteger.encode_length]; omega⟩
  next =>
    rw [encodeProperitiesHdr_writes h]
    refine ⟨_, rfl, ?_⟩
    rw [List.length_append, List.length_append, TwoByteInteger.encode_length, List.length_singleton]

theorem PacketIdAck.fromBytes_repeats {kind : ControlPacketType} {flags : UInt8} (name : String)
    {mk : PacketIdAck → MqttPacket}
    (hkind : ((kind.code <<< 4) ||| flags) >>> 4 = kind.code)
    (hflags : ((kind.code <<< 4) ||| flags) &&& 0x0F = flags)
    (hmk : ∀ p, (mk p).validateStrict = p.validate kind)
    (hwrite : ∀ p, (mk p).toBytes true = p.toBytes kind flags true)
    (h : HasBody true f size offset) (hsize : size ≤ VariableByteInteger.maxValue) :
    Yields (PacketIdAck.fromBytes kind flags name mk true f)
      (Repeats (PacketIdAck.fromBytes kind flags name mk)) := by
  refine .bind fun _ _ => .bind fun _ _ => ?_
  rw [h.withFrame_eq]
  refine .bind fun _ _ => .bind fun ⟨id, c⟩ hid => .bind fun ⟨code, n⟩ hcode => ?_
  refine .bind fun ⟨props, c⟩ hprops => .rejectIf fun _ => ?_
  obtain rfl := TwoByteInteger.decode_length hid
  obtain ⟨hvalues, hsection⟩ := readProperties_writes hprops
  obtain ⟨vhdr, hvhdr, hlen⟩ := PacketIdAck.variableHeader_writes (p := ⟨id, code, props⟩) hvalues
  refine validatedPacket_repeats fun hvalid => .of_encodePacket (hwrite _) ((hmk _).symm.trans hvalid)
    hvhdr rfl ?_ fun g hg hlen => ?_
  · have htotal := h.total
    have hn : n = offset + 2 + 1 ∨ n = offset + 2 ∧ size ≤ 2 := by
      unfold readReasonCode at hcode
      split at hcode
      next =>
        obtain ⟨byte, -, heq⟩ := bind_eq_ok.mp hcode
        cases heq
        exact .inl rfl
      next hle =>
        cases hcode
        exact .inr ⟨rfl, Nat.not_lt.mp hle⟩
    unfold VariableByteInteger.maxValue at hsize ⊢
    simp only [List.length_nil] at hlen ⊢
    omega
  · exact PacketIdAck.fromBytes_toBytes name hkind hflags (hmk _) ((hwrite _).symm.trans hg) hlen

theorem MqttDisconnect.readFields_writes {code : UInt8} {props : Properties} {n : Nat}
    (htotal : offset + size = f.length)
    (h : MqttDisconnect.readFields true size f offset f.length = .ok (code, props, n)) :
    (∀ p ∈ props, propertyValue p = .ok ()) ∧
      1 + (propertySection props).length ≤ max 2 size := by
  unfold MqttDisconnect.readFields at h
  split at h
  next =>
    obtain ⟨-, h⟩ := check_bind_eq_ok.mp h
    obtain ⟨byte, -, h⟩ := bind_eq_ok.mp h
    obtain ⟨⟨ps, c⟩, hprops, heq⟩ := bind_eq_ok.mp h
    cases heq
    obtain ⟨hvalues, hsection⟩ := readProperties_writes hprops
    exact ⟨hvalues, by omega⟩
  next =>
    cases h
    exact ⟨(fun p hp => by cases hp), Nat.le_max_left _ _⟩

theorem MqttDisconnect.fromBytes_repeats (h : HasBody true f size offset)
    (hsize : size ≤ VariableByteInteger.maxValue) :
    Yields (MqttDisconnect.fromBytes true f) (Repeats MqttDisconnect.fromBytes) := by
  refine .bind fun _ _ => ?_
  rw [h.withFrame_eq]
  refine .bind fun _ _ => .bind fun ⟨code, props, n⟩ hfields => .rejectIf fun _ => ?_
  obtain ⟨hvalues, hsection⟩ := MqttDisconnect.readFields_writes h.total hfields
  obtain ⟨vhdr, hvhdr, hlen⟩ : ∃ vhdr, MqttDisconnect.variableHeader true ⟨code, props⟩ = .ok vhdr ∧
      vhdr.length ≤ 1 + (propertySection props).length := by
    unfold MqttDisconnect.variableHeader
    split
    next => exact ⟨_, rfl, Nat.zero_le _⟩
    next =>
      rw [encodeProperitiesHdr_writes hvalues]
      exact ⟨_, rfl, by rw [List.length_append, List.length_singleton]⟩
  refine validatedPacket_repeats fun hvalid => .of_encodePacket rfl hvalid hvhdr rfl ?_
    fun g hg hlen => MqttDisconnect.fromBytes_toBytes hg hlen
  unfold VariableByteInteger.maxValue at hsize ⊢
  rw [List.length_nil]
  omega

theorem MqttAuth.returns {p : MqttAuth} (hvalid : p.validate = .ok ())
    (hvalues : ∀ prop ∈ p.properties, propertyValue prop = .ok ())
    (hlen : 1 + (propertySection p.properties).length ≤ VariableByteInteger.maxValue) :
    Returns MqttAuth.fromBytes (.auth p) := by
  have hvhdr : p.variableHeader true = .ok ([p.reasonCode] ++ propertySection p.properties) := by
    unfold MqttAuth.variableHeader
    rw [encodeProperitiesHdr_writes hvalues]
    rfl
  refine .of_encodePacket rfl hvalid hvhdr rfl ?_ fun g hg hlen => MqttAuth.fromBytes_toBytes hg hlen
  rwa [List.length_append, List.length_singleton, List.length_nil]

theorem MqttAuth.fromBytes_repeats (h : HasBody true f size offset)
    (hsize : size ≤ VariableByteInteger.maxValue) :
    Yields (MqttAuth.fromBytes true f) (Repeats MqttAuth.fromBytes) := by
  refine .bind fun _ _ => ?_
  rw [h.withFrame_eq]
  refine .bind fun _ _ => ?_
  split
  next =>
    exact validatedPacket_repeats fun hvalid => MqttAuth.returns hvalid (fun p hp => by cases hp)
      (by decide)
  next =>
    refine .rejectIf fun _ => .bind fun code _ => .bind fun _ _ => .bind fun props hprops => ?_
    refine .rejectIf fun hend => ?_
    obtain ⟨hvalues, hsection⟩ := parsePropertiesHdr_writes hprops
    have htotal := h.total
    exact validatedPacket_repeats fun hvalid => MqttAuth.returns hvalid hvalues
      (by dsimp only; omega)

theorem pingFromBytes_repeats {kind : ControlPacketType} {name : String} {p : MqttPacket}
    (hkind : ((kind.code <<< 4) ||| 0) >>> 4 = kind.code)
    (hflags : ((kind.code <<< 4) ||| 0) &&& 0x0F = 0)
    (hp : p.toBytes true = .ok (frame ((kind.code <<< 4) ||| 0) []))
    (h : HasBody true f size offset) :
    Yields (pingFromBytes kind name p true f) (Repeats (pingFromBytes kind name p)) := by
  refine .bind fun _ _ => ?_
  rw [h.withFrame_eq]
  exact .rejectIf fun _ => .bind fun _ _ => .ok (.packet ⟨_, hp, pingFromBytes_frame hkind hflags⟩)

/-! ### CONNACK and PUBLISH -/

theorem MqttConnAck.normalize_read (present : Bool) (code : UInt8) (props : Properties) :
    MqttConnAck.normalize ⟨present, code, if props = [] then none else some props⟩ =
      ⟨present, code, if props = [] then none else some props⟩ := by
  cases props <;> rfl

theorem MqttConnAck.fromBytes_repeats (h : HasBody true f size offset)
    (hsize : size ≤ VariableByteInteger.maxValue) :
    Yields (MqttConnAck.fromBytes true f) (Repeats MqttConnAck.fromBytes) := by
  refine .bind fun _ _ => .bind fun _ _ => ?_
  rw [h.withFrame_eq]
  refine .bind fun flags _ => .rejectIf fun _ => .bind fun code _ => .bind fun _ _ => ?_
  refine .bind fun ⟨props, c⟩ hprops => .rejectIf fun hend => ?_
  obtain ⟨hvalues, hsection⟩ := parsePropertiesHdr_writes hprops
  have htotal := h.total
  have hdefault : (if props = [] then none else some props : Option Properties).getD [] = props := by
    cases props <;> rfl
  have hvhdr : MqttConnAck.variableHeader true
      ⟨flags &&& 0x01 = 1, code, if props = [] then none else some props⟩ =
      .ok ([if decide (flags &&& 0x01 = 1) = true then 1 else 0, code] ++ propertySection props) := by
    unfold MqttConnAck.variableHeader
    dsimp only
    rw [hdefault, encodeProperitiesHdr_writes hvalues]
    rfl
  refine validatedPacket_repeats fun hvalid => .of_encodePacket rfl hvalid hvhdr rfl ?_
    fun g hg hlen => ?_
  · rw [List.length_append, List.length_nil]
    simp only [List.length_cons, List.length_nil]
    omega
  · have hread := MqttConnAck.fromBytes_toBytes hg hlen
    rwa [MqttConnAck.normalize_read] at hread

theorem readPacketId_writes {qos : UInt8} {n m : Nat} {id : Option UInt16} {message : String}
    (h : readPacketId qos f n = .ok (id, m)) :
    publishId qos id message = .ok id ∧ wireId qos id = id ∧ m = n + (wireIdBytes id).length := by
  unfold readPacketId at h
  unfold publishId wireId
  split at h
  next hqos =>
    obtain ⟨slice, -, h⟩ := bind_eq_ok.mp h
    obtain ⟨⟨packetId, c⟩, hid, heq⟩ := bind_eq_ok.mp h
    cases heq
    obtain rfl := TwoByteInteger.decode_length hid
    rw [if_pos hqos, if_pos hqos]
    exact ⟨rfl, rfl, rfl⟩
  next hqos =>
    cases h
    rw [if_neg hqos, if_neg hqos]
    exact ⟨rfl, rfl, rfl⟩

theorem MqttPublish.toBytes_writes {p : MqttPublish} (hvalid : p.validate = .ok ())
    (htopic : strLen p.topicName ≤ u16Max)
    (hid : publishId p.qos p.packetId "QoS > 0 requires a packet identifier" = .ok p.packetId)
    (hwire : wireId p.qos p.packetId = p.packetId)
    (hvalues : ∀ prop ∈ p.properties, propertyValue prop = .ok ()) :
    p.toBytes true = .ok (frame (0x30 ||| p.flags)
      (publishBody p.topicName p.packetId (propertySection p.properties) p.payload)) := by
  obtain ⟨b, hb⟩ : ∃ b, p.toBytes true = .ok b := by
    unfold MqttPublish.toBytes
    rw [onlyIf_true, hvalid, ok_bind, rejectIf_neg _ (Nat.not_lt.mpr htopic), ok_bind, hid, ok_bind]
    split
    next => exact ⟨_, rfl⟩
    next =>
      rw [PropertyEncoder.new_writes true hvalues]
      exact ⟨_, rfl⟩
  obtain ⟨props, -, -, -, hprops, rfl⟩ := MqttPublish.toBytes_ok hb
  rw [encodeProperitiesHdr_writes hvalues] at hprops
  cases hprops
  rw [hb, hwire]

theorem publishBody_length (topic : String) (id : Option UInt16) (properties payload : Bytes) :
    (publishBody topic id properties payload).length =
      2 + strLen topic + (wireIdBytes id).length + properties.length + payload.length := by
  rw [publishBody, List.length_append, List.length_append, List.length_append,
    Utf8String.encode_length]
  omega

theorem MqttPublish.fromBytes_repeats (h : HasBody true f size offset)
    (hsize : size ≤ VariableByteInteger.maxValue) :
    Yields (MqttPublish.fromBytes true f) (Repeats MqttPublish.fromBytes) := by
  refine .bind fun first _ => .bind fun _ _ => .rejectIf fun _ => .rejectIf fun _ => ?_
  rw [h.withFrame_eq]
  refine .bind fun _ _ => .bind fun ⟨topic, c⟩ htopic => .rejectIf fun _ => ?_
  refine .bind fun ⟨id, m⟩ hid => .bind fun _ _ => .bind fun ⟨props, c⟩ hprops => ?_
  dsimp only
  split
  next => exact fun _ hpanic => by cases hpanic
  next hfit =>
    refine .bind fun payload hpayload => .rejectIf fun _ => validatedPacket_repeats fun hvalid => ?_
    obtain ⟨htext, rfl⟩ := Utf8String.decode_writes htopic
    obtain ⟨hvalues, hsection⟩ := parsePropertiesHdr_writes hprops
    obtain ⟨hwritten, hwire, rfl⟩ := readPacketId_writes hid
    have hend : offset + (2 + strLen topic) + (wireIdBytes id).length + c ≤ f.length :=
      Nat.not_lt.mp hfit
    have hplace : At f _ (f.drop _) := ⟨hend, rfl⟩
    rw [Nat.add_sub_cancel' hend, getRange_to_end hplace] at hpayload
    cases hpayload
    have hwrite := MqttPublish.toBytes_writes hvalid htext.1 hwritten hwire hvalues
    have htotal := h.total
    refine ⟨_, hwrite, ?_⟩
    have hread := MqttPublish.fromBytes_toBytes hwrite (by
      rw [remainingLength_frame, publishBody_length, List.length_drop]
      dsimp only
      omega)
    rwa [MqttPublish.normalize, hwire] at hread

/-! ### CONNECT -/

theorem readWill_writes {flags : UInt8} {n m : Nat} {will : Option Will}
    (h : readWill true f flags n = .ok (will, m)) :
    ∃ field, will.elim (.ok []) (Will.payload true) = .ok field ∧ n + field.length ≤ m ∧
      ∀ w ∈ will, w.willMessage ≠ [] ∧
        ∀ prop ∈ w.properties.userProperties, prop.id = .userProperty := by
  unfold readWill at h
  split at h
  next =>
    obtain ⟨slice, -, h⟩ := bind_eq_ok.mp h
    obtain ⟨⟨w, c⟩, hwill, h⟩ := bind_eq_ok.mp h
    obtain ⟨hempty, heq⟩ := check_bind_eq_ok.mp h
    rw [rejectIf_eq_ok, not_or] at hempty
    cases heq
    obtain ⟨field, hfield, hlen, husers⟩ := Will.fromBytes_writes hwill
    refine ⟨field, hfield, Nat.add_le_add_left hlen n, fun w hw => ?_⟩
    cases hw
    exact ⟨hempty.2, husers⟩
  next =>
    cases h
    exact ⟨[], rfl, Nat.le_refl _, fun w hw => by cases hw⟩

theorem readUsername_writes {flags : UInt8} {n m : Nat} {username : Option String}
    (h : readUsername true f flags n = .ok (username, m)) :
    ∃ field, username.elim (.ok []) (encodeUtf8String true) = .ok field ∧ n + field.length ≤ m ∧
      username ≠ some "" := by
  unfold readUsername at h
  split at h
  next =>
    obtain ⟨slice, -, h⟩ := bind_eq_ok.mp h
    obtain ⟨⟨text, c⟩, htext, h⟩ := bind_eq_ok.mp h
    obtain ⟨hempty, heq⟩ := check_bind_eq_ok.mp h
    rw [rejectIf_eq_ok] at hempty
    cases heq
    obtain ⟨hvalid, rfl⟩ := Utf8String.decode_writes htext
    refine ⟨_, encodeUtf8String_writes hvalid, ?_, fun heq => hempty (Option.some.inj heq)⟩
    rw [Utf8String.encode_length]
  next =>
    cases h
    exact ⟨[], rfl, Nat.le_refl _, fun heq => by cases heq⟩

theorem readPassword_writes {flags : UInt8} {n m : Nat} {password : Option Bytes}
    (h : readPassword f flags n = .ok (password, m)) :
    ∃ field, password.elim (.ok []) encodeBinaryData = .ok field ∧ n + field.length ≤ m ∧
      password ≠ some [] := by
  unfold readPassword at h
  split at h
  next =>
    obtain ⟨slice, -, h⟩ := bind_eq_ok.mp h
    obtain ⟨⟨data, c⟩, hdata, h⟩ := bind_eq_ok.mp h
    obtain ⟨hempty, heq⟩ := check_bind_eq_ok.mp h
    rw [rejectIf_eq_ok] at hempty
    cases heq
    obtain ⟨hlen, rfl⟩ := BinaryData.decode_writes hdata
    refine ⟨_, encodeBinaryData_writes hlen, ?_, fun heq => hempty (Option.some.inj heq)⟩
    rw [BinaryData.encode_length]
  next =>
    cases h
    exact ⟨[], rfl, Nat.le_refl _, fun heq => by cases heq⟩

theorem MqttConnect.fromBytes_repeats (h : HasBody true f size offset)
    (hsize : size ≤ VariableByteInteger.maxValue) :
    Yields (MqttConnect.fromBytes true f) (Repeats MqttConnect.fromBytes) := by
  refine .bind fun _ _ => .bind fun _ _ => ?_
  rw [h.withFrame_eq]
  refine .bind fun _ _ => .bind fun ⟨name, c₁⟩ hname => .rejectIf fun hmqtt => ?_
  refine .bind fun version _ => .bind fun flags _ => .bind fun _ _ => ?_
  refine .bind fun _ _ => .bind fun ⟨keepAlive, _⟩ _ => .bind fun _ _ => ?_
  refine .bind fun ⟨props, c₂⟩ hprops => .bind fun _ _ => .bind fun ⟨client, c₃⟩ hclient => ?_
  refine .bind fun ⟨will, n₁⟩ hwill => .bind fun ⟨username, n₂⟩ husername => ?_
  refine .bind fun ⟨password, n₃⟩ hpassword => .rejectIf fun hend => ?_
  refine validatedPacket_repeats fun hvalid => ?_
  obtain ⟨hnameText, rfl⟩ := Utf8String.decode_writes hname
  obtain ⟨hvalues, hsection⟩ := parsePropertiesHdr_writes hprops
  obtain ⟨hclientText, rfl⟩ := Utf8String.decode_writes hclient
  obtain ⟨willField, hwillField, hwillLen, hwillRead⟩ := readWill_writes hwill
  obtain ⟨userField, huserField, huserLen, huserRead⟩ := readUsername_writes husername
  obtain ⟨passField, hpassField, hpassLen, hpassRead⟩ := readPassword_writes hpassword
  generalize hp : (MqttConnect.mk ..) = p at hvalid ⊢
  have hvhdr : p.variableHeader true = .ok (Utf8String.encode name ++ [version, p.connectFlags] ++
      TwoByteInteger.encode keepAlive ++ propertySection props) := by
    unfold MqttConnect.variableHeader
    rw [← hp]
    dsimp only
    rw [encodeUtf8String_writes hnameText, ok_bind, encodeProperitiesHdr_writes hvalues]
    rfl
  have hpl : p.payload true =
      .ok (Utf8String.encode client ++ willField ++ userField ++ passField) := by
    rw [MqttConnect.payload_eq, ← hp]
    dsimp only
    rw [encodeUtf8String_writes hclientText, ok_bind, hwillField, ok_bind, huserField, ok_bind,
      hpassField]
    rfl
  refine .of_encodePacket rfl hvalid hvhdr hpl ?_ fun g hg hlen =>
    MqttConnect.fromBytes_toBytes hg hlen ?_
  · have htotal := h.total
    simp only [List.length_append, Utf8String.encode_length, TwoByteInteger.encode_length,
      List.length_cons, List.length_nil]
    omega
  · rw [← hp]
    exact ⟨not_not.mp hmqtt, huserRead, hpassRead, hwillRead⟩

end Packets

end V5

end FlowSdk
