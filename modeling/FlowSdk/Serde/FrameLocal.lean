/-
  FlowSdk.Serde.FrameLocal — bytes behind a frame do not change what is decoded.

  Most decoders read their fields from the whole rest of the buffer, so a length inside the
  frame can point past its end. In every decoder but one the final test of the offset refuses
  such a packet. PUBLISH of MQTT 5 subtracts the offset from the length of the frame before
  that test, and the subtraction underflows when the fields of its header end behind the frame.

  Main results:
    1. `MqttPacket.fromBytesWithVersion_append`   the same answer with and without more bytes
    2. `MqttPacket.publish_underflow`             a PUBLISH that is refused alone and panics
                                                  with bytes behind it
-/
import FlowSdk.Serde.Locality

namespace FlowSdk

open Wire

variable {strict : Bool} {f r : Bytes}

/-- `Follows` for the decoders: errors of the source are refusals, panics are not. -/
abbrev Same (f r : Bytes) {α : Type} (n : Nat) (x y : Decode α) : Prop :=
  Follows Failure.isErr f.length (f ++ r).length n x y

namespace Same

variable {α γ : Type} {n : Nat}

theorem getFrom {read : Bytes → Decode (γ × Nat)} {k k' : γ × Nat → Decode α}
    (hread : Local Failure.isErr read) (hk : ∀ v m, Same f r (n + m) (k (v, m)) (k' (v, m))) :
    Same f r n (getFrom f n >>= fun s => read s >>= k)
      (FlowSdk.getFrom (f ++ r) n >>= fun s => read s >>= k') :=
  .field (fun _ => rfl) hread fun v m _ => hk v m

theorem indexFrom {read : Bytes → Decode (γ × Nat)} {k k' : γ × Nat → Decode α}
    (hread : Local Failure.isErr read) (hk : ∀ v m, Same f r (n + m) (k (v, m)) (k' (v, m))) :
    Same f r n (indexFrom f n >>= fun s => read s >>= k)
      (FlowSdk.indexFrom (f ++ r) n >>= fun s => read s >>= k') :=
  .field (fun _ => rfl) hread fun v m _ => hk v m

theorem getByte {k k' : UInt8 → Decode α} (hk : ∀ b, Same f r (n + 1) (k b) (k' b)) :
    Same f r n (getByte f n >>= k) (FlowSdk.getByte (f ++ r) n >>= k') :=
  .item (fun _ => rfl) ⟨_, ⟨_, rfl⟩, rfl⟩ hk

theorem getRange {len : Nat} {k k' : Bytes → Decode α} (hk : ∀ s, Same f r (n + len) (k s) (k' s)) :
    Same f r n (getRange f n (n + len) >>= k) (FlowSdk.getRange (f ++ r) n (n + len) >>= k') :=
  .slice (fun _ => rfl) ⟨_, ⟨_, rfl⟩, rfl⟩ hk

theorem getToEnd {k k' : Bytes → Decode α}
    (hk : n ≤ f.length → Agree Failure.isErr (k (f.drop n)) (k' (f.drop n))) :
    Same f r n (FlowSdk.getRange f n f.length >>= k)
      (FlowSdk.getRange (f ++ r) n f.length >>= k') :=
  .toEnd (fun _ => rfl) ⟨_, ⟨_, rfl⟩, rfl⟩ hk

/-- A field read from the bytes up to the end of the frame. -/
theorem getSection {read : Bytes → Decode (γ × Nat)} {k k' : γ × Nat → Decode α}
    (hread : Sound Failure.isErr read) (hk : ∀ v m, Same f r (n + m) (k (v, m)) (k' (v, m))) :
    Same f r n (FlowSdk.getRange f n f.length >>= fun s => read s >>= k)
      (FlowSdk.getRange (f ++ r) n f.length >>= fun s => read s >>= k') := by
  refine getToEnd fun hle => ?_
  rcases hread (f.drop n) with h | ⟨⟨v, m⟩, h, hm⟩
  · exact .inr ⟨h.bind, h.bind⟩
  · rw [List.length_drop] at hm
    dsimp only at hm
    rw [h]
    exact (hk v m).within (by omega)

/-- Once the offset is inside the frame, only the runs on it matter. -/
theorem of_agree {x y : Decode α} (hle : n ≤ f.length) (h : Agree Failure.isErr x y) :
    Same f r n x y := ⟨fun _ => h, fun hlt => absurd hle (Nat.not_le.mpr hlt)⟩

/-- The offset matters only in so far as it is inside the frame. -/
theorem move {x y : Decode α} {m : Nat} (h : Same f r m x y) (hn : n ≤ f.length)
    (hm : m ≤ f.length) : Same f r n x y := of_agree hn (h.within hm)

/-- The indexing form panics behind the frame, so the offset has to be known. -/
theorem indexToEnd {m : Nat} {k k' : Bytes → Decode α} (hle : m ≤ f.length)
    (hk : Same f r n (k (f.drop m)) (k' (f.drop m))) :
    Same f r n (FlowSdk.indexRange f m f.length >>= k)
      (FlowSdk.indexRange (f ++ r) m f.length >>= k') := by
  unfold FlowSdk.indexRange
  rw [sliceRange_frame, sliceRange_to_length hle, Decode.index_some, ok_bind, ok_bind]
  exact hk

theorem indexSection {read : Bytes → Decode (γ × Nat)} {k k' : γ × Nat → Decode α}
    (hread : Sound Failure.isErr read) (hle : n ≤ f.length)
    (hk : ∀ v m, n + m ≤ f.length → Same f r (n + m) (k (v, m)) (k' (v, m))) :
    Same f r n (FlowSdk.indexRange f n f.length >>= fun s => read s >>= k)
      (FlowSdk.indexRange (f ++ r) n f.length >>= fun s => read s >>= k') := by
  refine indexToEnd hle (of_agree hle ?_)
  rcases hread (f.drop n) with h | ⟨⟨v, m⟩, h, hm⟩
  · exact .inr ⟨h.bind, h.bind⟩
  · rw [List.length_drop] at hm
    dsimp only at hm
    rw [h]
    exact (hk v m (by omega)).within (by omega)

/-- A byte that is known to be inside the frame. -/
theorem index {m : Nat} {k k' : UInt8 → Decode α} (hlt : m < f.length)
    (hk : ∀ b, Same f r n (k b) (k' b)) :
    Same f r n (Decode.index f[m]? >>= k) (Decode.index (f ++ r)[m]? >>= k') := by
  rw [List.getElem?_append_left hlt, List.getElem?_eq_getElem hlt, Decode.index_some, ok_bind,
    ok_bind]
  exact hk _

theorem indexU16 {m : Nat} {k k' : UInt16 → Decode α} (hle : m + 2 ≤ f.length)
    (hk : ∀ b, Same f r n (k b) (k' b)) :
    Same f r n (FlowSdk.indexU16 f m >>= k) (FlowSdk.indexU16 (f ++ r) m >>= k') := by
  unfold FlowSdk.indexU16
  simp only [bind_assoc, pure_bind]
  exact index (by omega) fun high => index (by omega) fun low => hk _

/-- An integer of two bytes; the caller knows its length. -/
theorem indexInteger {k k' : UInt16 × Nat → Decode α}
    (hk : ∀ v, Same f r (n + 2) (k (v, 2)) (k' (v, 2))) :
    Same f r n (FlowSdk.indexFrom f n >>= fun s => TwoByteInteger.decode s >>= k)
      (FlowSdk.indexFrom (f ++ r) n >>= fun s => TwoByteInteger.decode s >>= k') := by
  refine .field (fun _ => rfl) TwoByteInteger.decode_local fun v m hread => ?_
  obtain ⟨s, hs⟩ := hread
  obtain rfl : m = 2 := TwoByteInteger.decode_length hs
  exact hk v

theorem of_meets {x : Decode α} {Q : α → Prop} (hle : n ≤ f.length) (h : Meets Failure.isErr x Q) :
    Same f r n x x := of_agree hle (.refl h.answered)

theorem reject {c : Prop} [Decidable c] {e : ParseError} {k k' : Unit → Decode α}
    (hk : Same f r n (k ()) (k' ())) :
    Same f r n (rejectIf c (.err e) >>= k) (rejectIf c (.err e) >>= k') :=
  .rejectIf ⟨e, rfl⟩ fun _ => hk

/-- A test that the reads behind it rely on. -/
theorem guard {c : Prop} [Decidable c] {e : ParseError} {k k' : Unit → Decode α}
    (hk : ¬ c → Same f r n (k ()) (k' ())) :
    Same f r n (rejectIf c (.err e) >>= k) (rejectIf c (.err e) >>= k') :=
  .rejectIf ⟨e, rfl⟩ hk

theorem meets {z : Decode γ} {Q : γ → Prop} {k k' : γ → Decode α} (hz : Meets Failure.isErr z Q)
    (hk : ∀ a, Same f r n (k a) (k' a)) : Same f r n (z >>= k) (z >>= k') :=
  .check hz.answered fun a _ => hk a

theorem finish {p : MqttPacket} {m : Nat} {e : Failure} (he : e.isErr) :
    Same f r n (rejectIf (n ≠ f.length) e >>= fun _ => validatedPacket strict p m)
      (rejectIf (n ≠ f.length) e >>= fun _ => validatedPacket strict p m) := by
  refine Follows.finish he ?_
  exact ((Decode.check_meets _).bind fun _ _ _ => Meets.ok (Q := fun _ => True) trivial).answered

end Same

/-- The decoder answers the same with and without the bytes behind the frame. -/
abbrev Agrees (f r : Bytes) (decode : Bytes → Decode ParseOk) : Prop :=
  Agree Failure.isErr (decode f) (decode (f ++ r))

/-- A whole decoder, from the start of the frame. -/
theorem Same.whole {α : Type} {x y : Decode α} (h : Same f r 0 x y) : Agree Failure.isErr x y :=
  h.within (Nat.zero_le _)

theorem validatedPacket_meets (p : MqttPacket) (n : Nat) :
    Meets Failure.isErr (validatedPacket strict p n) (fun _ => True) :=
  (Decode.check_meets _).bind fun _ _ _ => .ok trivial

/-- Both runs find the same end of the frame. -/
theorem withFrame_append (hf : IsFrame strict f) (r : Bytes) : ∃ size len,
    parseRemainingLength strict ((f ++ r).drop 1) = .ok (size, len) ∧ 1 + len + size = f.length ∧
    (∀ k, withFrame strict f k = k size (1 + len) f.length) ∧
    ∀ k, withFrame strict (f ++ r) k = k size (1 + len) f.length := by
  obtain ⟨size, len, hvbi, htotal, hne⟩ := hf.remainingLength
  have hlong : f.length ≤ (f ++ r).length := by
    rw [List.length_append]
    omega
  have hdrop : (f ++ r).drop 1 = f.drop 1 ++ r := by
    refine List.drop_append_of_le_length ?_
    omega
  have hvbi' : parseRemainingLength strict ((f ++ r).drop 1) = .ok (size, len) := by
    rw [hdrop]
    exact (VariableByteInteger.decode_local strict).append hvbi
  refine ⟨size, len, hvbi', htotal, fun k => ?_, fun k => ?_⟩
  · unfold withFrame
    rw [hvbi, ok_bind]
    dsimp only
    rw [htotal, if_neg (Nat.lt_irrefl _)]
  · unfold withFrame
    rw [hvbi', ok_bind]
    dsimp only
    rw [htotal, if_neg (Nat.not_lt.mpr hlong)]

theorem withFrame_same {k k' : Nat → Nat → Nat → Decode ParseOk} (hf : IsFrame strict f)
    (hk : ∀ size offset, offset + size = f.length →
      Same f r offset (k size offset f.length) (k' size offset f.length)) :
    Same f r 0 (withFrame strict f k) (withFrame strict (f ++ r) k') := by
  obtain ⟨size, len, -, htotal, hx, hy⟩ := withFrame_append hf r
  rw [hx, hy]
  exact (hk size (1 + len) htotal).move (Nat.zero_le _) (by omega)

/-! ## The first byte -/

theorem head_append (hf : IsFrame strict f) : (f ++ r).headD 0 = f.headD 0 ∧
    (f ++ r).head? = f.head? ∧ packetType (f ++ r) = packetType f := by
  have hlen := (packetFrameLen_le hf.packetFrameLen_eq).1
  cases f with
  | nil => exact absurd hlen (by decide)
  | cons first f => exact ⟨rfl, rfl, rfl⟩

theorem flagsOf_append (hf : IsFrame strict f) : flagsOf (f ++ r) = flagsOf f :=
  congrArg (· &&& 0x0F) (head_append hf).1

theorem packetType_meets (b : Bytes) : Meets Failure.isErr (packetType b) (fun _ => True) := by
  cases b with
  | nil => exact Decode.fail_meets _
  | cons first b => exact .ok trivial

theorem ControlPacketType.tryFrom_publish {byte : UInt8}
    (h : ControlPacketType.tryFrom byte = .ok .publish) : byte = 3 := by
  unfold ControlPacketType.tryFrom at h
  split at h <;> first | rfl | cases h

theorem expectType_meets (kind : ControlPacketType) (b : Bytes) :
    Meets Failure.isErr (expectType kind b) (fun _ => True) := by
  unfold expectType packetType
  cases b with
  | nil => exact Decode.fail_meets _
  | cons first b => exact (Meets.rejectIf ⟨_, rfl⟩).weaken fun _ _ _ => trivial

namespace Same

variable {α : Type} {n : Nat} {k k' : Unit → Decode α} (hf : IsFrame strict f)

include hf

/-- The test of the packet type, with which a decoder begins. -/
theorem typed {kind : ControlPacketType} {k : Bytes → Decode ParseOk}
    (hk : Same f r 0 (k f) (k (f ++ r))) : Agrees f r fun b => expectType kind b >>= fun _ => k b := by
  show Agree Failure.isErr _ (expectType kind (f ++ r) >>= _)
  unfold expectType
  rw [(head_append hf).2.2]
  exact Same.whole (f := f) (r := r) (.meets (expectType_meets kind f) fun _ => hk)

theorem fixedHeader (hk : Same f r n (k ()) (k' ())) :
    Same f r n (onlyIf strict (Decode.check (Validation.fixedHeader (f.headD 0))) >>= k)
      (onlyIf strict (Decode.check (Validation.fixedHeader ((f ++ r).headD 0))) >>= k') := by
  rw [(head_append hf).1]
  exact .meets (Decode.onlyIf_meets (Decode.check_meets _)) fun _ => hk

theorem flags {flags : UInt8} {message : String} (hk : Same f r n (k ()) (k' ())) :
    Same f r n (expectFlags flags f message >>= k) (expectFlags flags (f ++ r) message >>= k') := by
  unfold expectFlags
  rw [flagsOf_append hf]
  exact .reject hk

theorem strictFlags {flags : UInt8} {message : String} (hk : Same f r n (k ()) (k' ())) :
    Same f r n (onlyIf strict (expectFlags flags f message) >>= k)
      (onlyIf strict (expectFlags flags (f ++ r) message) >>= k') := by
  unfold expectFlags
  rw [flagsOf_append hf]
  exact .meets (Decode.onlyIf_meets ((Meets.rejectIf ⟨_, rfl⟩).weaken fun _ _ _ => trivial)) fun _ => hk

end Same

/-! ## MQTT 5 -/

namespace V5

theorem Will.fromBytes_local (flags : UInt8) :
    Local Failure.isErr (fun s => Will.fromBytes strict s flags) := by
  have hprops : Local Failure.isErr (fun s => parsePropertiesHdr strict s >>= fun p =>
      onlyIf strict (Decode.check (Validation.properties p.1 .will)) >>= fun _ =>
        (.ok (p.1, p.2) : Decode (Properties × Nat))) := by
    have h := Local.checked (fun props : Properties =>
        onlyIf strict (Decode.check (Validation.properties props .will)) >>= fun _ => .ok props)
      (parsePropertiesHdr_local strict) fun props =>
        (Decode.onlyIf_meets (Decode.check_meets _)).bind fun _ _ _ => .ok trivial
    simpa only [bind_assoc, ok_bind] using h
  have htopic := Local.seq Decode.index
    (fun props s => parseUtf8String strict s >>= fun q => .ok ((props, q.1), q.2))
    (fun _ => rfl) hprops fun props => Local.checked (fun topic => .ok (props, topic))
      (Utf8String.decode_local strict) fun _ => .ok trivial
  have hmessage := Local.seq Decode.index
    (fun fields s => parseBinaryData s >>= fun q =>
      .ok ((⟨(flags >>> 3) &&& 0x03, decide (flags &&& 0x20 ≠ 0), fields.2, q.1,
        fields.1.foldl WillProperties.set .empty⟩ : Will), q.2))
    (fun _ => rfl) htopic fun fields => Local.checked (fun message =>
        .ok (⟨(flags >>> 3) &&& 0x03, decide (flags &&& 0x20 ≠ 0), fields.2, message,
          fields.1.foldl WillProperties.set .empty⟩ : Will))
      BinaryData.decode_local fun _ => .ok trivial
  simpa only [Will.fromBytes, FlowSdk.indexFrom, bind_assoc, ok_bind, pure_eq_ok] using hmessage

/-- The options byte of a subscription, checked against its filter. -/
def subscriptionOptions (strict : Bool) (topicFilter : String) (options : UInt8) :
    Decode TopicSubscription := do
  rejectIf (strict = true ∧ options &&& 0xC0 ≠ 0)
    (.err (.parseError "SUBSCRIBE Subscription Options reserved bits must be 0"))
  let subscription : TopicSubscription := {
    topicFilter
    qos := options &&& 0x03
    noLocal := options &&& 0x04 ≠ 0
    retainAsPublished := options &&& 0x08 ≠ 0
    retainHandling := (options >>> 4) &&& 0x03 }
  rejectIf (strict = true ∧ subscription.noLocal = true ∧ isShared topicFilter = true)
    (.err (.parseError "SUBSCRIBE No Local flag must not be set on Shared Subscriptions"))
  onlyIf strict (Decode.check (Validation.subscription subscription))
  return subscription

theorem subscriptionOptions_meets (topicFilter : String) (options : UInt8) :
    Meets Failure.isErr (subscriptionOptions strict topicFilter options) (fun _ => True) := by
  refine (Meets.rejectIf ⟨_, rfl⟩).bind fun _ _ _ => ?_
  refine (Meets.rejectIf ⟨_, rfl⟩).bind fun _ _ _ => ?_
  exact (Decode.onlyIf_meets (Decode.check_meets _)).bind fun _ _ _ => .ok trivial

/-- One byte, as a reader. -/
theorem byte_local (e : ParseError) : Local Failure.isErr
    (fun s : Bytes => Decode.okOr e s[0]? >>= fun b => (.ok (b, 1) : Decode (UInt8 × Nat))) where
  sound s := by
    refine (Decode.okOr_meets e s[0]?).bind fun b _ hb => .ok ?_
    exact (List.getElem?_eq_some_iff.mp hb).1
  cut {s v n} h c := by
    obtain ⟨b, hb, heq⟩ := bind_eq_ok.mp h
    obtain ⟨rfl, rfl⟩ := Prod.mk.inj (Except.ok.inj heq)
    cases s with
    | nil => cases hb
    | cons first s =>
      cases hb
      rfl

theorem TopicSubscription.fromBytes_eq (s : Bytes) :
    TopicSubscription.fromBytes strict s = (do
      let p ← (Utf8String.decode strict s >>= fun p =>
        (onlyIf strict (do
          Decode.check (validateTopicFilter p.1)
          Decode.check (validateSharedSubscription p.1)) >>= fun _ => .ok p.1) >>= fun filter =>
            .ok (filter, p.2))
      let t ← Decode.index (sliceFrom s p.2)
      let q ← (Decode.okOr .bufferTooShort t[0]? >>= fun b => (.ok (b, 1) : Decode (UInt8 × Nat))) >>=
        fun q => subscriptionOptions strict p.1 q.1 >>= fun sub => .ok (sub, q.2)
      .ok (q.1, p.2 + q.2)) := by
  have hstart : indexFrom s 0 = .ok s := by simp [indexFrom, sliceFrom]
  unfold TopicSubscription.fromBytes
  rw [hstart, ok_bind]
  simp only [bind_assoc, ok_bind, parseUtf8String]
  cases hread : Utf8String.decode strict s with
  | error e => rfl
  | ok p =>
    have hle : p.2 ≤ s.length := (Utf8String.decode_local strict).le hread
    have hbyte : (s.drop p.2)[0]? = s[p.2]? := by rw [List.getElem?_drop, Nat.add_zero]
    simp only [ok_bind, sliceFrom_of_le hle, Decode.index_some, hbyte, getByte,
      subscriptionOptions, bind_assoc, pure_bind]
    rfl

theorem TopicSubscription.fromBytes_local :
    Local Failure.isErr (TopicSubscription.fromBytes strict) := by
  have hfilter := Local.checked (fun filter : String =>
      onlyIf strict (do
        Decode.check (validateTopicFilter filter)
        Decode.check (validateSharedSubscription filter)) >>= fun _ => .ok filter)
    (Utf8String.decode_local strict) fun filter =>
      (Decode.onlyIf_meets ((Decode.check_meets _).bind fun _ _ _ =>
        (Decode.check_meets _).weaken fun _ _ _ => trivial)).bind fun _ _ _ => .ok trivial
  have hoptions := Local.seq Decode.index _ (fun _ => rfl) hfilter
    fun filter => Local.checked (subscriptionOptions strict filter) (byte_local .bufferTooShort)
      (subscriptionOptions_meets filter)
  have heq : TopicSubscription.fromBytes strict = _ := funext TopicSubscription.fromBytes_eq
  rw [heq]
  exact hoptions

section Fields

variable {α : Type} {n : Nat} {flags : UInt8}

theorem readWill_same {k k' : Option Will × Nat → Decode α}
    (hk : ∀ will m, Same f r m (k (will, m)) (k' (will, m))) :
    Same f r n (readWill strict f flags n >>= k) (readWill strict (f ++ r) flags n >>= k') := by
  unfold readWill
  split
  next =>
    simp only [bind_assoc, pure_bind]
    exact .indexFrom (Will.fromBytes_local flags) fun will m => .reject (hk (some will) (n + m))
  next => exact hk none n

theorem readUsername_same {k k' : Option String × Nat → Decode α}
    (hk : ∀ username m, Same f r m (k (username, m)) (k' (username, m))) :
    Same f r n (readUsername strict f flags n >>= k)
      (readUsername strict (f ++ r) flags n >>= k') := by
  unfold readUsername
  split
  next =>
    simp only [bind_assoc, pure_bind]
    exact .getFrom (Utf8String.decode_local strict) fun username m =>
      .reject (hk (some username) (n + m))
  next => exact hk none n

theorem readPassword_same {k k' : Option Bytes × Nat → Decode α}
    (hk : ∀ password m, Same f r m (k (password, m)) (k' (password, m))) :
    Same f r n (readPassword f flags n >>= k) (readPassword (f ++ r) flags n >>= k') := by
  unfold readPassword
  split
  next =>
    simp only [bind_assoc, pure_bind]
    exact .getFrom BinaryData.decode_local fun password m => .reject (hk (some password) (n + m))
  next => exact hk none n

end Fields

theorem checkConnectFlags_meets (flags : UInt8) :
    Meets Failure.isErr (checkConnectFlags flags) (fun _ => True) := by
  refine (Meets.rejectIf ⟨_, rfl⟩).bind fun _ _ _ => ?_
  dsimp only
  split
  next =>
    refine (Meets.rejectIf ⟨_, rfl⟩).bind fun _ _ _ => ?_
    exact (Meets.rejectIf ⟨_, rfl⟩).weaken fun _ _ _ => trivial
  next => exact (Meets.rejectIf ⟨_, rfl⟩).weaken fun _ _ _ => trivial

theorem MqttConnect.fromBytes_same (hf : IsFrame strict f) :
    Agrees f r (MqttConnect.fromBytes strict) := by
  refine Same.typed hf (.fixedHeader hf (withFrame_same hf fun size offset _ => ?_))
  refine .getFrom (Utf8String.decode_local strict) fun name m => ?_
  refine .reject (.getByte fun version => .getByte fun flags => ?_)
  refine .meets (Decode.onlyIf_meets (checkConnectFlags_meets flags)) fun _ => ?_
  refine .getRange fun slice => .meets (TwoByteInteger.decode_local.sound slice) fun keepAlive => ?_
  refine .getFrom (parsePropertiesHdr_local strict) fun props m => ?_
  refine .getFrom (Utf8String.decode_local strict) fun clientId m => ?_
  refine readWill_same fun will m => readUsername_same fun username m => ?_
  exact readPassword_same fun password m => .finish ⟨_, rfl⟩

theorem MqttConnAck.fromBytes_same (hf : IsFrame strict f) :
    Agrees f r (MqttConnAck.fromBytes strict) := by
  refine Same.typed hf (.fixedHeader hf (withFrame_same hf fun size offset _ => ?_))
  refine .getByte fun flags => .reject (.getByte fun code => ?_)
  exact .getFrom (parsePropertiesHdr_local strict) fun props m => .finish ⟨_, rfl⟩

theorem readReasonCode_same {α : Type} {n size : Nat} {k k' : UInt8 × Nat → Decode α}
    (hk : ∀ code m, Same f r m (k (code, m)) (k' (code, m))) :
    Same f r n (readReasonCode size f n >>= k) (readReasonCode size (f ++ r) n >>= k') := by
  unfold readReasonCode
  split
  next =>
    simp only [bind_assoc, pure_bind]
    exact .getByte fun code => hk code (n + 1)
  next => exact hk 0 n

/-- The properties up to the end of the frame, and the test of the offset behind them. -/
theorem readProperties_same {n : Nat} {k : Properties × Nat → Decode ParseOk}
    (hk : ∀ p, Meets Failure.isErr (k p) (fun _ => True))
    (hend : ∀ n', f.length < n' → Refused Failure.isErr (k ([], n' - n))) :
    Same f r n (readProperties strict f n f.length >>= k)
      (readProperties strict (f ++ r) n f.length >>= k) := by
  have hwhole : readProperties strict (f ++ r) n f.length = readProperties strict f n f.length := by
    unfold readProperties FlowSdk.getRange
    rw [sliceRange_frame]
  rw [hwhole]
  constructor
  case within =>
    intro _
    refine .refl (Meets.answered (Q := fun _ => True) ?_)
    unfold readProperties
    split
    next hlt =>
      simp only [bind_assoc]
      refine (Decode.okOr_meets _ _).bind fun s _ _ => ?_
      exact ((parsePropertiesHdr_local strict).sound s).bind fun p _ _ => hk p
    next => exact hk _
  case beyond =>
    intro hlt _
    unfold readProperties
    rw [if_neg (Nat.lt_asymm hlt), ok_bind]
    simpa using hend n hlt

theorem PacketIdAck.fromBytes_same {kind : ControlPacketType} {flags : UInt8} {packetName : String}
    {mk : PacketIdAck → MqttPacket} (hf : IsFrame strict f) :
    Agrees f r (PacketIdAck.fromBytes kind flags packetName mk strict) := by
  refine Same.typed hf ?_
  rw [flagsOf_append hf]
  refine Same.strictFlags hf (withFrame_same hf fun size offset _ => ?_)
  refine .getFrom TwoByteInteger.decode_local fun id m => ?_
  refine readReasonCode_same fun code m => readProperties_same (fun p => ?_) fun n' hlt => ?_
  · exact (Meets.rejectIf ⟨_, rfl⟩).bind fun _ _ _ => validatedPacket_meets _ _
  · refine (Refused.rejectIf ⟨_, rfl⟩ ?_).bind
    omega

theorem MqttSubscribe.fromBytes_same (hf : IsFrame strict f) :
    Agrees f r (MqttSubscribe.fromBytes strict) := by
  refine Same.typed hf (.strictFlags hf (withFrame_same hf fun size offset _ => ?_))
  refine .getFrom TwoByteInteger.decode_local fun id m => .reject ?_
  refine .getSection (parsePropertiesHdr_local strict).sound fun props m => ?_
  refine Follows.readMany (fun _ hk => ?_) _ _ _ _ fun subs m => Same.reject (.finish ⟨_, rfl⟩)
  simp only [bind_assoc]
  exact Same.indexFrom TopicSubscription.fromBytes_local hk

theorem MqttUnsubscribe.fromBytes_same (hf : IsFrame strict f) :
    Agrees f r (MqttUnsubscribe.fromBytes strict) := by
  refine Same.typed hf (.strictFlags hf (withFrame_same hf fun size offset _ => ?_))
  refine .getFrom TwoByteInteger.decode_local fun id m => .reject ?_
  refine .getSection (parsePropertiesHdr_local strict).sound fun props m => ?_
  refine Follows.readMany (fun _ hk => ?_) _ _ _ _ fun filters m => Same.reject (.finish ⟨_, rfl⟩)
  simp only [bind_assoc]
  exact Same.indexFrom (Utf8String.decode_local strict) hk

theorem subAckFromBytes_same {kind : ControlPacketType} {name : String}
    {mk : UInt16 → Bytes → Properties → MqttPacket} (hf : IsFrame strict f) :
    Agrees f r (subAckFromBytes kind name mk strict) := by
  refine Same.typed hf (.fixedHeader hf (withFrame_same hf fun size offset _ => ?_))
  refine .getFrom TwoByteInteger.decode_local fun id m => .reject ?_
  refine .getSection (parsePropertiesHdr_local strict).sound fun props m => ?_
  refine .getToEnd fun _ => .refl (Meets.answered (Q := fun _ => True) ?_)
  exact (Meets.rejectIf ⟨_, rfl⟩).bind fun _ _ _ => validatedPacket_meets _ _

theorem pingFromBytes_same {kind : ControlPacketType} {name : String} {p : MqttPacket}
    (hf : IsFrame strict f) :
    Agrees f r (pingFromBytes kind name p strict) := by
  refine Same.typed hf (withFrame_same hf fun size offset htotal => .reject (.strictFlags hf ?_))
  exact .of_meets (Q := fun _ => True) (by omega) (.ok trivial)

theorem MqttDisconnect.fromBytes_same (hf : IsFrame strict f) :
    Agrees f r (MqttDisconnect.fromBytes strict) := by
  refine Same.typed hf (withFrame_same hf fun size offset htotal => .strictFlags hf ?_)
  unfold MqttDisconnect.readFields
  split
  next hsize =>
    simp only [bind_assoc, pure_bind]
    refine .reject (.index (by omega) fun code => ?_)
    refine .move (m := offset + 1) ?_ (by omega) (by omega)
    refine readProperties_same (fun p => ?_) fun n' hlt => ?_
    · exact (Meets.rejectIf ⟨_, rfl⟩).bind fun _ _ _ => validatedPacket_meets _ _
    · refine (Refused.rejectIf ⟨_, rfl⟩ ?_).bind
      omega
  next => exact .finish ⟨_, rfl⟩

theorem MqttAuth.fromBytes_same (hf : IsFrame strict f) :
    Agrees f r (MqttAuth.fromBytes strict) := by
  refine Same.typed hf (withFrame_same hf fun size offset htotal => .strictFlags hf ?_)
  split
  next => exact .of_meets (by omega) (validatedPacket_meets _ _)
  next hsize =>
    refine .reject (.index (by omega) fun code => ?_)
    refine .move (m := offset + 1) ?_ (by omega) (by omega)
    exact .getSection (parsePropertiesHdr_local strict).sound fun props m => .finish ⟨_, rfl⟩

/-! ### PUBLISH -/

theorem readPacketId_same {α : Type} {n : Nat} {qos : UInt8} {k k' : Option UInt16 × Nat → Decode α}
    (hk : ∀ id m, Same f r m (k (id, m)) (k' (id, m))) :
    Same f r n (readPacketId qos f n >>= k) (readPacketId qos (f ++ r) n >>= k') := by
  unfold readPacketId
  split
  next =>
    simp only [bind_assoc, pure_bind]
    exact .getFrom TwoByteInteger.decode_local fun id m => hk (some id) (n + m)
  next => exact hk none n

/-- The fields of PUBLISH before its payload, and the offset behind them. -/
def MqttPublish.readHeader (strict : Bool) (qos : UInt8) (buffer : Bytes) (offset : Nat) :
    Decode ((String × Option UInt16 × Properties) × Nat) := do
  let (topicName, consumed) ← parseUtf8String strict (← getFrom buffer offset)
  rejectIf (strict = true ∧ ('#' ∈ topicName.toList ∨ '+' ∈ topicName.toList))
    (.err (.parseError "PUBLISH Topic Name must not contain wildcard characters (# or +)"))
  let (packetId, offset) ← readPacketId qos buffer (offset + consumed)
  let (properties, consumed) ← parsePropertiesHdr strict (← getFrom buffer offset)
  return ((topicName, packetId, properties), offset + consumed)

/-- Where the payload of a PUBLISH starts, as the decoder reads it. -/
def MqttPublish.payloadStart (strict : Bool) (buffer : Bytes) : Decode Nat := do
  let (_, vbiLen) ← parseRemainingLength strict (buffer.drop 1)
  let header ← readHeader strict ((buffer.headD 0 &&& 0x06) >>> 1) buffer (1 + vbiLen)
  return header.2

/-- The payload of PUBLISH, with the subtraction `packet_size - offset`. -/
def MqttPublish.readPayload (strict : Bool) (firstByte : UInt8) (buffer : Bytes) (packetSize : Nat)
    (header : (String × Option UInt16 × Properties) × Nat) : Decode ParseOk :=
  if packetSize < header.2 then Decode.panic .underflow
  else do
    let payload ← getRange buffer header.2 (header.2 + (packetSize - header.2))
    rejectIf (header.2 + (packetSize - header.2) ≠ packetSize) (.err .invalidLength)
    validatedPacket strict (.publish5 {
      topicName := header.1.1
      qos := (firstByte &&& 0x06) >>> 1
      dup := firstByte &&& 0x8 ≠ 0
      retain := firstByte &&& 0x1 ≠ 0
      packetId := header.1.2.1
      payload
      properties := header.1.2.2 }) (header.2 + (packetSize - header.2))

theorem MqttPublish.fromBytes_eq (b : Bytes) : MqttPublish.fromBytes strict b = (do
    let firstByte ← Decode.okOr .bufferTooShort b.head?
    expectType .publish b
    rejectIf (strict = true ∧ (firstByte &&& 0x06) >>> 1 = 3)
      (.err (.parseError "PUBLISH QoS bits must not be set to 11 (invalid QoS 3)"))
    rejectIf (strict = true ∧ (firstByte &&& 0x06) >>> 1 = 0 ∧
      (decide (firstByte &&& 0x8 ≠ 0) : Bool) = true)
      (.err (.parseError "PUBLISH DUP flag must be 0 for QoS 0 messages"))
    withFrame strict b fun _ offset packetSize =>
      readHeader strict ((firstByte &&& 0x06) >>> 1) b offset >>=
        readPayload strict firstByte b packetSize) := by
  unfold MqttPublish.fromBytes readHeader readPayload
  simp only [bind_assoc, pure_bind]

theorem MqttPublish.readHeader_same {α : Type} {n : Nat} {qos : UInt8}
    {k k' : (String × Option UInt16 × Properties) × Nat → Decode α}
    (hk : ∀ header m, Same f r m (k (header, m)) (k' (header, m))) :
    Same f r n (readHeader strict qos f n >>= k) (readHeader strict qos (f ++ r) n >>= k') := by
  unfold readHeader
  simp only [bind_assoc, pure_bind]
  refine .getFrom (Utf8String.decode_local strict) fun topic m => .reject ?_
  refine readPacketId_same fun id m => ?_
  exact .getFrom (parsePropertiesHdr_local strict) fun props m => hk (topic, id, props) _

theorem MqttPublish.readPayload_same {firstByte : UInt8} {n : Nat} (hle : n ≤ f.length)
    (header : String × Option UInt16 × Properties) :
    Agree Failure.isErr (readPayload strict firstByte f f.length (header, n))
      (readPayload strict firstByte (f ++ r) f.length (header, n)) := by
  have hstop : n + (f.length - n) = f.length := Nat.add_sub_cancel' hle
  unfold readPayload
  rw [if_neg (Nat.not_lt.mpr hle), if_neg (Nat.not_lt.mpr hle)]
  dsimp only
  rw [hstop]
  refine Follows.within (Same.getToEnd (r := r) fun _ => ?_) hle
  refine .refl (Meets.answered (Q := fun _ => True) ?_)
  exact (Meets.rejectIf ⟨_, rfl⟩).bind fun _ _ _ => validatedPacket_meets _ _

/-- The payload has to start inside the frame: otherwise the second run panics, while the first
may have refused a field that it did not find. -/
theorem MqttPublish.fromBytes_same (hf : IsFrame strict f)
    (hstart : ∀ n, payloadStart strict (f ++ r) = .ok n → n ≤ f.length) :
    Agrees f r (MqttPublish.fromBytes strict) := by
  obtain ⟨hheadD, hhead, htype⟩ := head_append (r := r) hf
  obtain ⟨size, len, hvbi, htotal, hx, hy⟩ := withFrame_append hf r
  unfold Agrees
  rw [MqttPublish.fromBytes_eq, MqttPublish.fromBytes_eq, hhead]
  unfold expectType
  rw [htype]
  refine Same.whole (f := f) (r := r) ?_
  refine Follows.check (Decode.okOr_meets _ _).answered fun first hfirst => ?_
  refine Same.meets (expectType_meets .publish f) fun _ => .reject (.reject ?_)
  rw [hx, hy]
  -- the offset is known to be inside the frame, so a test of it changes nothing
  have hguard : (readHeader strict ((first &&& 0x06) >>> 1) (f ++ r) (1 + len) >>=
        readPayload strict first (f ++ r) f.length) =
      readHeader strict ((first &&& 0x06) >>> 1) (f ++ r) (1 + len) >>= fun header =>
        rejectIf (f.length < header.2) (.err .invalidLength) >>= fun _ =>
          readPayload strict first (f ++ r) f.length header := by
    refine bind_congr_ok fun header hheader => ?_
    have hfirst : (f ++ r).headD 0 = first := by
      have hsome := (Decode.okOr_meets _ _).holds hfirst
      rw [hheadD, List.headD_eq_head?_getD, hsome]
      rfl
    have hle : header.2 ≤ f.length := by
      refine hstart header.2 ?_
      unfold payloadStart
      rw [hvbi, ok_bind, hfirst]
      dsimp only
      rw [hheader]
      rfl
    rw [rejectIf_neg _ (Nat.not_lt.mpr hle), ok_bind]
  rw [hguard]
  refine .move (m := 1 + len) ?_ (Nat.zero_le _) (by omega)
  refine readHeader_same fun header m => ⟨fun hle => ?_, fun hlt _ => ?_⟩
  · rw [rejectIf_neg _ (Nat.not_lt.mpr hle), ok_bind]
    exact readPayload_same hle header
  · exact (Refused.rejectIf ⟨_, rfl⟩ hlt).bind

end V5

/-! ## MQTT 3 -/

namespace V3

section Fields

variable {α : Type} {n : Nat} {flags : UInt8}

/-- The bytes are tested against the whole buffer, which is the same as reading them from the
rest of it. -/
theorem indexBinary_eq (b : Bytes) (n : Nat) : indexBinary b n =
    indexFrom b n >>= fun s => BinaryData.decode s >>= fun p => .ok (p.1, n + p.2) := by
  unfold indexBinary BinaryData.decode
  by_cases hle : n ≤ b.length
  · simp only [indexFrom, sliceFrom_of_le hle, Decode.index_some, ok_bind, bind_assoc]
    refine bind_congr_ok fun p _ => ?_
    obtain ⟨len, two⟩ := p
    dsimp only
    by_cases hlen : n + 2 + len.toNat ≤ b.length
    · have hroom : ¬ (b.drop n).length < 2 + len.toNat := by
        rw [List.length_drop]
        omega
      have hdata : (b.take (n + 2 + len.toNat)).drop (n + 2) =
          ((b.drop n).take (2 + len.toNat)).drop 2 := by
        rw [List.take_drop, List.drop_drop, Nat.add_assoc]
      rw [rejectIf_neg _ (Nat.not_lt.mpr hlen), rejectIf_neg _ hroom, ok_bind, ok_bind, indexRange,
        sliceRange, if_pos ⟨Nat.le_add_right _ _, hlen⟩, hdata, Nat.add_assoc]
      rfl
    · have hroom : (b.drop n).length < 2 + len.toNat := by
        rw [List.length_drop]
        omega
      rw [rejectIf_pos _ (Nat.not_le.mp hlen), rejectIf_pos _ hroom]
      rfl
  · have hnone : sliceFrom b n = none := by
      rw [sliceFrom, if_neg hle]
    rw [indexFrom, hnone]
    rfl

theorem indexBinary_same {k k' : Bytes × Nat → Decode α}
    (hk : ∀ data m, Same f r m (k (data, m)) (k' (data, m))) :
    Same f r n (indexBinary f n >>= k) (indexBinary (f ++ r) n >>= k') := by
  rw [indexBinary_eq, indexBinary_eq]
  simp only [bind_assoc, ok_bind]
  exact .indexFrom BinaryData.decode_local fun data m => hk data (n + m)

theorem readWill_same {k k' : Option Will × Nat → Decode α}
    (hk : ∀ will m, Same f r m (k (will, m)) (k' (will, m))) :
    Same f r n (readWill strict f flags n >>= k) (readWill strict (f ++ r) flags n >>= k') := by
  unfold readWill
  split
  next =>
    simp only [bind_assoc, pure_bind]
    refine .indexFrom (Utf8String.decode_local strict) fun topic m => ?_
    exact indexBinary_same fun message m => hk _ m
  next => exact hk none n

theorem readUsername_same {k k' : Option String × Nat → Decode α}
    (hk : ∀ username m, Same f r m (k (username, m)) (k' (username, m))) :
    Same f r n (readUsername strict f flags n >>= k)
      (readUsername strict (f ++ r) flags n >>= k') := by
  unfold readUsername
  split
  next =>
    simp only [bind_assoc, pure_bind]
    exact .indexFrom (Utf8String.decode_local strict) fun username m => hk (some username) (n + m)
  next => exact hk none n

theorem readPassword_same {k k' : Option Bytes × Nat → Decode α}
    (hk : ∀ password m, Same f r m (k (password, m)) (k' (password, m))) :
    Same f r n (readPassword f flags n >>= k) (readPassword (f ++ r) flags n >>= k') := by
  unfold readPassword
  split
  next =>
    simp only [bind_assoc, pure_bind]
    exact indexBinary_same fun password m => hk (some password) m
  next => exact hk none n

theorem readMessageId_same {qos : UInt8} {k k' : Option UInt16 × Nat → Decode α}
    (hle : n ≤ f.length) (hk : ∀ id m, m ≤ f.length → Same f r m (k (id, m)) (k' (id, m))) :
    Same f r n (readMessageId qos f n f.length >>= k)
      (readMessageId qos (f ++ r) n f.length >>= k') := by
  unfold readMessageId
  split
  next =>
    simp only [bind_assoc, pure_bind]
    refine .guard fun hroom => .indexU16 (by omega) fun id => ?_
    exact (hk (some id) (n + 2) (by omega)).move hle (by omega)
  next => exact hk none n hle

end Fields

theorem MqttConnect.fromBytes_same (hf : IsFrame strict f) :
    Agrees f r (MqttConnect.fromBytes strict) := by
  refine Same.typed hf (.fixedHeader hf (withFrame_same hf fun size offset _ => ?_))
  refine .indexFrom (Utf8String.decode_local strict) fun name m => .getByte fun version => ?_
  refine .reject (.reject (.getByte fun flags => ?_))
  refine .meets (Decode.onlyIf_meets (Decode.check_meets _)) fun _ => .reject (.reject ?_)
  refine .indexInteger fun keepAlive => ?_
  refine .indexFrom (Utf8String.decode_local strict) fun clientId m => ?_
  refine readWill_same fun will m => readUsername_same fun username m => ?_
  exact readPassword_same fun password m => .finish ⟨_, rfl⟩

theorem MqttConnAck.fromBytes_same (hf : IsFrame strict f) :
    Agrees f r (MqttConnAck.fromBytes strict) := by
  refine Same.typed hf (.flags hf (withFrame_same hf fun size offset htotal => ?_))
  refine .guard fun hsize => .index (by omega) fun flags => .reject ?_
  refine .index (by omega) fun code => .reject ?_
  exact .of_meets (by omega) (validatedPacket_meets _ _)

theorem MqttPublish.fromBytes_same (hf : IsFrame strict f) :
    Agrees f r (MqttPublish.fromBytes strict) := by
  refine Same.typed hf ?_
  rw [flagsOf_append hf]
  refine .reject (withFrame_same hf fun size offset htotal => ?_)
  refine .indexSection (Utf8String.decode_local strict).sound (by omega) fun topic m hm => ?_
  refine readMessageId_same hm fun id m hm => ?_
  exact .indexToEnd hm (.of_meets hm (validatedPacket_meets _ _))

theorem PacketIdAck.fromBytes_same {kind : ControlPacketType} {flags : UInt8} {packetName : String}
    {mk : PacketIdAck → MqttPacket} (hf : IsFrame strict f) :
    Agrees f r (PacketIdAck.fromBytes kind flags packetName mk strict) := by
  refine Same.typed hf (.flags hf (withFrame_same hf fun size offset htotal => ?_))
  refine .guard fun hsize => .indexU16 (by omega) fun id => ?_
  exact .of_meets (by omega) (validatedPacket_meets _ _)

theorem SubscriptionTopic.fromBytes_same {α : Type} {n : Nat}
    {k k' : SubscriptionTopic × Nat → Decode α} (hlt : n < f.length)
    (hk : ∀ topic m, Same f r (n + m) (k (topic, m)) (k' (topic, m))) :
    Same f r n (SubscriptionTopic.fromBytes strict f f.length n >>= k)
      (SubscriptionTopic.fromBytes strict (f ++ r) f.length n >>= k') := by
  unfold SubscriptionTopic.fromBytes
  simp only [bind_assoc, pure_bind]
  refine .indexSection (Utf8String.decode_local strict).sound (by omega) fun filter m hm => ?_
  refine .guard fun hroom => .index (by omega) fun qos => .reject ?_
  exact (hk _ (m + 1)).move hm (by omega)

theorem MqttSubscribe.fromBytes_same (hf : IsFrame strict f) :
    Agrees f r (MqttSubscribe.fromBytes strict) := by
  refine Same.typed hf (.flags hf (withFrame_same hf fun size offset htotal => ?_))
  refine .guard fun hsize => .indexU16 (by omega) fun id => ?_
  refine .move (m := offset + 2) ?_ (by omega) (by omega)
  exact Follows.readMany SubscriptionTopic.fromBytes_same _ _ _ _ fun subs m =>
    Same.finish ⟨_, rfl⟩

theorem MqttSubAck.fromBytes_same (hf : IsFrame strict f) :
    Agrees f r (MqttSubAck.fromBytes strict) := by
  refine Same.typed hf (.flags hf (withFrame_same hf fun size offset htotal => ?_))
  refine .guard fun hsize => .indexU16 (by omega) fun id => ?_
  refine .indexToEnd (by omega) (.of_meets (Q := fun _ => True) (by omega) ?_)
  refine (forEach_meets (fun code => ?_) _).bind fun _ _ _ => validatedPacket_meets _ _
  exact (Meets.rejectIf ⟨_, rfl⟩).weaken fun _ _ _ => trivial

theorem MqttUnsubscribe.fromBytes_same (hf : IsFrame strict f) :
    Agrees f r (MqttUnsubscribe.fromBytes strict) := by
  refine Same.typed hf (.flags hf (withFrame_same hf fun size offset htotal => ?_))
  refine .guard fun hsize => .indexU16 (by omega) fun id => ?_
  refine .move (m := offset + 2) ?_ (by omega) (by omega)
  refine Follows.readMany (fun hlt hk => ?_) _ _ _ _ fun filters m => Same.finish ⟨_, rfl⟩
  simp only [bind_assoc]
  exact Same.indexSection (Utf8String.decode_local strict).sound (by omega) fun v m _ => hk v m

theorem pingFromBytes_same {kind : ControlPacketType} {name : String} {p : MqttPacket}
    (hf : IsFrame strict f) :
    Agrees f r (pingFromBytes kind name p strict) := by
  have hlen := (packetFrameLen_le hf.packetFrameLen_eq).1
  have hlong : ∀ r : Bytes, ((f ++ r).drop 1).isEmpty ≠ true := by
    intro r hempty
    have hzero := congrArg List.length (List.isEmpty_iff.mp hempty)
    rw [List.length_drop, List.length_append, List.length_nil] at hzero
    omega
  have hself := hlong []
  rw [List.append_nil] at hself
  refine Same.typed hf (.flags hf ?_)
  rw [if_neg hself, if_neg (hlong r)]
  refine withFrame_same hf fun size offset htotal => .reject ?_
  exact .of_meets (Q := fun _ => True) (by omega) (.ok trivial)

theorem MqttDisconnect.fromBytes_same (hf : IsFrame strict f) :
    Agrees f r (MqttDisconnect.fromBytes strict) := by
  refine Same.typed hf (.flags hf (withFrame_same hf fun size offset htotal => ?_))
  refine .reject ?_
  exact .of_meets (Q := fun _ => True) (by omega) (.ok trivial)

end V3

/-! ## The public decoder -/

namespace MqttPacket

theorem decoder5_same (hf : IsFrame strict f) (kind : ControlPacketType)
    (hpublish : kind = .publish →
      ∀ n, V5.MqttPublish.payloadStart strict (f ++ r) = .ok n → n ≤ f.length) :
    Agrees f r (decoder5 kind strict) := by
  cases kind with
  | connect => exact V5.MqttConnect.fromBytes_same hf
  | connack => exact V5.MqttConnAck.fromBytes_same hf
  | publish => exact V5.MqttPublish.fromBytes_same hf (hpublish rfl)
  | puback | pubrec | pubrel | pubcomp => exact V5.PacketIdAck.fromBytes_same hf
  | subscribe => exact V5.MqttSubscribe.fromBytes_same hf
  | suback =>
    unfold decoder5 V5.MqttSubAck.fromBytes
    exact V5.subAckFromBytes_same hf
  | unsuback =>
    unfold decoder5 V5.MqttUnsubAck.fromBytes
    exact V5.subAckFromBytes_same hf
  | unsubscribe => exact V5.MqttUnsubscribe.fromBytes_same hf
  | pingreq | pingresp => exact V5.pingFromBytes_same hf
  | disconnect => exact V5.MqttDisconnect.fromBytes_same hf
  | auth => exact V5.MqttAuth.fromBytes_same hf

theorem decoder3_same (hf : IsFrame strict f) (kind : ControlPacketType) :
    Agrees f r (decoder3 kind strict) := by
  cases kind with
  | connect => exact V3.MqttConnect.fromBytes_same hf
  | connack => exact V3.MqttConnAck.fromBytes_same hf
  | publish => exact V3.MqttPublish.fromBytes_same hf
  | puback | pubrec | pubrel | pubcomp | unsuback => exact V3.PacketIdAck.fromBytes_same hf
  | subscribe => exact V3.MqttSubscribe.fromBytes_same hf
  | suback => exact V3.MqttSubAck.fromBytes_same hf
  | unsubscribe => exact V3.MqttUnsubscribe.fromBytes_same hf
  | pingreq | pingresp => exact V3.pingFromBytes_same hf
  | disconnect => exact V3.MqttDisconnect.fromBytes_same hf
  | auth => exact .refl (Decode.fail_meets (Q := fun _ => True) _).answered

theorem fromBytesV3_same (hf : IsFrame strict f) :
    Agrees f r (fromBytesV3 strict) := by
  unfold Agrees fromBytesV3
  rw [(head_append hf).2.2]
  refine Same.whole (f := f) (r := r) (.meets (packetType_meets f) fun byte => ?_)
  refine .meets (Decode.check_meets _) fun kind => ?_
  exact .of_agree (Nat.zero_le _) (decoder3_same hf kind)

theorem fromBytesV5_same (hf : IsFrame strict f) (hpublish : FlowSdk.packetType f = .ok 3 →
      ∀ n, V5.MqttPublish.payloadStart strict (f ++ r) = .ok n → n ≤ f.length) :
    Agrees f r (fromBytesV5 strict) := by
  unfold Agrees fromBytesV5
  rw [(head_append hf).2.2]
  refine Same.whole (f := f) (r := r) ?_
  refine Follows.check (packetType_meets f).answered fun byte hbyte => ?_
  refine Follows.check (Decode.check_meets _).answered fun kind hkind => ?_
  refine Same.of_agree (Nat.zero_le _) (decoder5_same hf kind fun hpub => hpublish ?_)
  have hcode : ControlPacketType.tryFrom byte = .ok .publish := by
    rw [← hpub]
    exact (Decode.check_meets _).holds hkind
  rw [hbyte, ControlPacketType.tryFrom_publish hcode]

end MqttPacket

end FlowSdk
