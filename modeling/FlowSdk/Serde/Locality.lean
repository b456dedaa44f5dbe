/-
  FlowSdk.Serde.Locality — what the field readers look at.

  Every reader of the decoders takes a length from the front of its slice and then that many
  bytes. It refuses a slice that is too short with an error of its own and looks at nothing
  behind the bytes it takes, so it is `Local`. None of them panics: the lengths that are cut off
  and the indices that are taken are in range whenever they are reached.

  Main results:
    1. `VariableByteInteger.decode_local`, `BinaryData.decode_local`, `Utf8String.decode_local`
    2. `parsePropertiesHdr_local`   a property section
-/
import FlowSdk.Serde.WholeFrame
import FlowSdk.Wire.Locality

namespace FlowSdk

open Wire

/-- An error of the source, and not a panic. -/
def Failure.isErr (e : Failure) : Prop := ∃ error, e = .err error

theorem Failure.err_isErr (error : ParseError) : (Failure.err error).isErr := ⟨error, rfl⟩

namespace Decode

theorem check_meets {α : Type} (x : Except ParseError α) :
    Meets Failure.isErr (Decode.check x) (fun a => x = .ok a) := by
  cases x with
  | error e => exact .error ⟨e, rfl⟩
  | ok a => exact .ok rfl

theorem okOr_meets {α : Type} (e : ParseError) (x : Option α) :
    Meets Failure.isErr (Decode.okOr e x) (fun a => x = some a) := by
  cases x with
  | none => exact .error ⟨e, rfl⟩
  | some a => exact .ok rfl

theorem fail_meets {α : Type} (e : ParseError) {Q : α → Prop} :
    Meets Failure.isErr (Decode.fail e) Q := .error ⟨e, rfl⟩

theorem onlyIf_meets {strict : Bool} {x : Decode Unit} {Q : Unit → Prop}
    (h : Meets Failure.isErr x Q) : Meets Failure.isErr (onlyIf strict x) (fun _ => True) := by
  cases strict with
  | false => exact .ok trivial
  | true => exact h.weaken fun _ _ _ => trivial

end Decode

theorem forEach_meets {α : Type} {check : α → Decode Unit}
    (h : ∀ a, Meets Failure.isErr (check a) (fun _ => True)) :
    ∀ list, Meets Failure.isErr (forEach check list) (fun _ => True)
  | [] => .ok trivial
  | a :: list => (h a).bind fun _ _ _ => forEach_meets h list

/-! ## Integers -/

theorem TwoByteInteger.decode_local : Local Failure.isErr TwoByteInteger.decode where
  sound s := by
    rcases s with _ | ⟨a, _ | ⟨b, s⟩⟩
    · exact Decode.fail_meets _
    · exact Decode.fail_meets _
    · exact .ok (Nat.le_add_left 2 s.length)
  cut {s v n} h c := by
    rcases s with _ | ⟨a, _ | ⟨b, s⟩⟩
    · cases h
    · cases h
    · cases h
      rfl

theorem TwoByteInteger.decode_length {s : Bytes} {v : UInt16} {n : Nat}
    (h : TwoByteInteger.decode s = .ok (v, n)) : n = 2 := by
  rcases s with _ | ⟨a, _ | ⟨b, s⟩⟩ <;> cases h
  rfl

namespace VariableByteInteger

theorem decode_local (strict : Bool) : Local Failure.isErr (decode strict) where
  sound s := by
    cases h : decode strict s with
    | error e =>
      cases s with
      | nil =>
        cases h
        exact Decode.fail_meets _
      | cons byte s =>
        rcases decode_fails (List.cons_ne_nil _ _) h with ⟨⟨_, _, rfl⟩, -⟩ | ⟨⟨_, rfl⟩, -⟩
        · exact Decode.fail_meets _
        · exact Decode.fail_meets _
    | ok p =>
      obtain ⟨used, rest, rfl, hlen, -⟩ := decode_used h
      exact .ok (by rw [← hlen, List.length_append]; omega)
  cut {s v n} h c := by
    obtain ⟨used, rest, rfl, rfl, -, hall, -⟩ := decode_used h
    rw [List.take_left]
    exact hall c

end VariableByteInteger

/-! ## Length-prefixed data -/

theorem BinaryData.decode_local : Local Failure.isErr BinaryData.decode where
  sound s := by
    refine (TwoByteInteger.decode_local.sound s).bind fun p _ _ => ?_
    refine (Meets.rejectIf (Failure.err_isErr _)).bind fun _ _ hlen => ?_
    exact .ok (Nat.not_lt.mp hlen)
  cut {s v n} h c := by
    obtain ⟨⟨len, two⟩, hint, h⟩ := bind_eq_ok.mp h
    obtain ⟨hlen, heq⟩ := check_bind_eq_ok.mp h
    rw [rejectIf_eq_ok, Nat.not_lt] at hlen
    obtain ⟨rfl, rfl⟩ := Prod.mk.inj (Except.ok.inj heq)
    have htwo : two = 2 := TwoByteInteger.decode_length hint
    have htake : (s.take (2 + len.toNat)).length = 2 + len.toNat := List.length_take_of_le hlen
    have hfront : TwoByteInteger.decode (s.take (2 + len.toNat) ++ c) = .ok (len, two) :=
      TwoByteInteger.decode_local.take hint (by omega)
    have hroom : ¬ (s.take (2 + len.toNat) ++ c).length < 2 + len.toNat := by
      rw [List.length_append, htake]
      omega
    unfold BinaryData.decode
    rw [hfront, ok_bind]
    dsimp only
    rw [rejectIf_neg _ hroom, ok_bind, List.take_append_of_le_length (Nat.le_of_eq htake.symm),
      List.take_take, Nat.min_self]
    rfl

/-- A reader followed by checks of what it read. -/
theorem Local.checked {α γ : Type} {read : Bytes → Decode (α × Nat)} (check : α → Decode γ)
    (hread : Local Failure.isErr read)
    (hcheck : ∀ a, Meets Failure.isErr (check a) (fun _ => True)) :
    Local Failure.isErr (fun s => read s >>= fun p => check p.1 >>= fun b => .ok (b, p.2)) where
  sound s := (hread.sound s).bind fun p _ hle => (hcheck p.1).bind fun b _ _ => .ok hle
  cut {s v n} h c := by
    obtain ⟨⟨a, m⟩, hp, h⟩ := bind_eq_ok.mp h
    obtain ⟨b, hb, heq⟩ := bind_eq_ok.mp h
    obtain ⟨rfl, rfl⟩ := Prod.mk.inj (Except.ok.inj heq)
    show (read _ >>= _) = _
    rw [hread.cut hp c, ok_bind]
    dsimp only
    rw [hb, ok_bind]

theorem Utf8String.decode_local (strict : Bool) : Local Failure.isErr (Utf8String.decode strict) := by
  have hchecked := Local.checked (fun data => do
      let s ← Decode.okOr .utf8Error (stringFromUtf8 data)
      onlyIf strict (Decode.check (validateMqttUtf8String s))
      return s) BinaryData.decode_local fun data =>
    (Decode.okOr_meets _ _).bind fun s _ _ =>
      (Decode.onlyIf_meets (Decode.check_meets _)).bind fun _ _ _ => .ok trivial
  have heq : Utf8String.decode strict = fun s => BinaryData.decode s >>= fun p => (do
      let s ← Decode.okOr .utf8Error (stringFromUtf8 p.1)
      onlyIf strict (Decode.check (validateMqttUtf8String s))
      return s) >>= fun b => .ok (b, p.2) := by
    funext s
    unfold Utf8String.decode
    cases BinaryData.decode s with
    | error e => rfl
    | ok p =>
      obtain ⟨data, len⟩ := p
      simp only [ok_bind]
      cases Decode.okOr .utf8Error (stringFromUtf8 data) with
      | error e => rfl
      | ok s =>
        simp only [ok_bind]
        cases onlyIf strict (Decode.check (validateMqttUtf8String s)) <;> rfl
  rw [heq]
  exact hchecked

/-! ## Properties -/

/-- What a reader of one property does at an offset inside its slice: it advances, and not past
the end. -/
def Advances (buffer : Bytes) (offset : Nat) (x : Decode (Property × Nat)) : Prop :=
  Meets Failure.isErr x (fun p => offset ≤ p.2 ∧ p.2 ≤ buffer.length)

section Values

variable {strict : Bool} {buffer : Bytes} {offset : Nat}

theorem byteValue_advances (mk : UInt8 → Property) :
    Advances buffer offset (byteValue buffer offset mk) := by
  refine (Decode.okOr_meets _ _).bind fun val _ hval => .ok ?_
  have hlt : offset < buffer.length := (List.getElem?_eq_some_iff.mp hval).1
  exact ⟨Nat.le_succ _, hlt⟩

/-- A slice of fixed length has that length. -/
theorem sliceRange_length {n : Nat} {slice : Bytes}
    (h : sliceRange buffer offset (offset + n) = some slice) :
    slice.length = n ∧ offset + n ≤ buffer.length := by
  unfold sliceRange at h
  split at h
  next hle =>
    cases h
    rw [List.length_drop, List.length_take]
    omega
  next => cases h

theorem twoByteValue_advances (mk : UInt16 → Property) :
    Advances buffer offset (twoByteValue buffer offset mk) := by
  refine (Decode.okOr_meets _ _).bind fun slice _ hslice => ?_
  obtain ⟨hlen, hle⟩ := sliceRange_length hslice
  rcases slice with _ | ⟨a, _ | ⟨b, _ | ⟨c, slice⟩⟩⟩ <;> simp only [List.length_cons,
    List.length_nil] at hlen <;> try omega
  exact .ok ⟨Nat.le_add_right _ _, hle⟩

theorem fourByteValue_advances (mk : UInt32 → Property) :
    Advances buffer offset (fourByteValue buffer offset mk) := by
  refine (Decode.okOr_meets _ _).bind fun slice _ hslice => ?_
  obtain ⟨hlen, hle⟩ := sliceRange_length hslice
  rcases slice with _ | ⟨a, _ | ⟨b, _ | ⟨c, _ | ⟨d, _ | ⟨e, slice⟩⟩⟩⟩⟩ <;> simp only [List.length_cons,
    List.length_nil] at hlen <;> try omega
  exact .ok ⟨Nat.le_add_right _ _, hle⟩

/-- A value read from everything behind the offset. -/
theorem readValue_advances {α : Type} {read : Bytes → Decode (α × Nat)} {mk : α → Property}
    (hread : Local Failure.isErr read) (hle : offset ≤ buffer.length) :
    Advances buffer offset (do
      let (val, consumed) ← read (← Decode.index (sliceFrom buffer offset))
      return (mk val, offset + consumed)) := by
  rw [sliceFrom_of_le hle, Decode.index_some, ok_bind]
  refine (hread.sound _).bind fun p _ hp => .ok ⟨Nat.le_add_right _ _, ?_⟩
  rw [List.length_drop] at hp
  show offset + p.2 ≤ buffer.length
  omega

theorem vbiValue_advances (mk : UInt32 → Property) (hle : offset ≤ buffer.length) :
    Advances buffer offset (vbiValue strict buffer offset mk) := by
  have hvalue : ∀ make : Nat → Property, Advances buffer offset (do
      let p ← parseVbi strict (← Decode.index (sliceFrom buffer offset))
      return (make p.1, offset + p.2)) := fun make =>
    readValue_advances (VariableByteInteger.decode_local strict) hle
  exact hvalue fun val => mk (UInt32.ofNat val)

theorem textValue_advances (mk : String → Property) (hle : offset ≤ buffer.length) :
    Advances buffer offset (textValue strict buffer offset mk) :=
  readValue_advances (Utf8String.decode_local strict) hle

theorem binaryValue_advances (mk : Bytes → Property) (hle : offset ≤ buffer.length) :
    Advances buffer offset (binaryValue buffer offset mk) :=
  readValue_advances BinaryData.decode_local hle

theorem pairValue_advances (mk : String → String → Property) (hle : offset ≤ buffer.length) :
    Advances buffer offset (pairValue strict buffer offset mk) := by
  unfold pairValue
  rw [sliceFrom_of_le hle, Decode.index_some, ok_bind]
  refine ((Utf8String.decode_local strict).sound _).bind fun p _ hp => ?_
  rw [List.length_drop] at hp
  have hnext : offset + p.2 ≤ buffer.length := by omega
  dsimp only
  rw [sliceFrom_of_le hnext, Decode.index_some, ok_bind]
  refine ((Utf8String.decode_local strict).sound _).bind fun q _ hq => .ok ?_
  rw [List.length_drop] at hq
  dsimp only
  omega

end Values

theorem parseProperty_meets (strict : Bool) (buffer : Bytes) :
    Meets Failure.isErr (parseProperty strict buffer) (fun p => 0 < p.2 ∧ p.2 ≤ buffer.length) := by
  refine ((VariableByteInteger.decode_local strict).sound buffer).bind fun ⟨id, offset⟩ hid hle => ?_
  have hpos : 0 < offset := by
    obtain ⟨used, -, -, rfl, hne, -⟩ := VariableByteInteger.decode_used hid
    exact List.length_pos_iff.mpr hne
  have hvalue : ∀ {x : Decode (Property × Nat)}, Advances buffer offset x →
      Meets Failure.isErr x (fun p => 0 < p.2 ∧ p.2 ≤ buffer.length) := fun h =>
    h.weaken fun p _ hp => ⟨Nat.lt_of_lt_of_le hpos hp.1, hp.2⟩
  dsimp only
  cases PropertyID.tryFrom id with
  | error e => exact Decode.fail_meets _
  | ok property =>
    cases property
    case payloadFormatIndicator | requestProblemInformation | requestResponseInformation
        | maximumQoS | retainAvailable | wildcardSubscriptionAvailable
        | subscriptionIdentifierAvailable | sharedSubscriptionAvailable =>
      exact hvalue (byteValue_advances _)
    case serverKeepAlive | receiveMaximum | topicAliasMaximum | topicAlias =>
      exact hvalue (twoByteValue_advances _)
    case messageExpiryInterval | sessionExpiryInterval | willDelayInterval | maximumPacketSize =>
      exact hvalue (fourByteValue_advances _)
    case subscriptionIdentifier => exact hvalue (vbiValue_advances _ hle)
    case correlationData | authenticationData => exact hvalue (binaryValue_advances _ hle)
    case userProperty => exact hvalue (pairValue_advances _ hle)
    all_goals exact hvalue (textValue_advances _ hle)

theorem parseNextProperty_meets (strict : Bool) (buffer : Bytes) :
    Meets Failure.isErr (parseNextProperty strict buffer)
      (fun p => 0 < p.2 ∧ p.2 ≤ buffer.length) :=
  (parseProperty_meets strict buffer).bind fun _ _ hp =>
    (Decode.onlyIf_meets (Decode.check_meets _)).bind fun _ _ _ => .ok hp

/-- A loop whose reader advances at every turn, and never past the end, stops at the end. -/
theorem readMany_meets {α : Type} {read : Nat → Decode (α × Nat)} {stop : Nat}
    (hread : ∀ offset < stop, Meets Failure.isErr (read offset)
      (fun p => 0 < p.2 ∧ offset + p.2 ≤ stop)) :
    ∀ fuel offset, stop < offset + fuel → offset ≤ stop →
      Meets Failure.isErr (readMany read stop fuel offset) (fun p => p.2 = stop)
  | 0, offset, hfuel, hle => absurd hfuel (by omega)
  | fuel + 1, offset, hfuel, hle => by
    rw [readMany]
    split
    next hlt =>
      refine (hread offset hlt).bind fun p _ hp => ?_
      refine (readMany_meets hread fuel (offset + p.2) (by omega) hp.2).bind fun q _ hq => ?_
      exact .ok hq
    next hge => exact .ok (by dsimp only; omega)

theorem parseProperties_meets (strict : Bool) (buffer : Bytes) :
    Meets Failure.isErr (parseProperties strict buffer) (fun p => p.2 = buffer.length) := by
  refine readMany_meets (fun offset hlt => ?_) _ 0 (by omega) (Nat.zero_le _)
  refine (parseNextProperty_meets strict (buffer.drop offset)).weaken fun p _ hp => ?_
  rw [List.length_drop] at hp
  omega

/-- A section that was read is as long as it says. -/
theorem parsePropertiesHdr_consumed {strict : Bool} {s : Bytes} {ps : Properties} {n : Nat}
    (h : parsePropertiesHdr strict s = .ok (ps, n)) : ∃ len offset,
      parseVbi strict s = .ok (len, offset) ∧ n = offset + len ∧ n ≤ s.length ∧
        parseProperties strict ((s.take n).drop offset) = .ok (ps, len) := by
  obtain ⟨⟨len, offset⟩, hvbi, h⟩ := bind_eq_ok.mp h
  obtain ⟨hlen, h⟩ := check_bind_eq_ok.mp h
  obtain ⟨⟨props, consumed⟩, hprops, heq⟩ := bind_eq_ok.mp h
  obtain ⟨rfl, rfl⟩ := Prod.mk.inj (Except.ok.inj heq)
  rw [rejectIf_eq_ok, Nat.not_lt] at hlen
  obtain rfl : consumed = len := by
    have hmeets := (parseProperties_meets strict _).holds hprops
    rw [List.length_drop, List.length_take] at hmeets
    dsimp only at hmeets
    omega
  exact ⟨consumed, offset, hvbi, rfl, hlen, hprops⟩

/-- Nothing behind the section is looked at. -/
theorem parsePropertiesHdr_cut {strict : Bool} {s : Bytes} {len offset : Nat}
    (hvbi : parseVbi strict s = .ok (len, offset)) (hlen : offset + len ≤ s.length) (c : Bytes) :
    parsePropertiesHdr strict (s.take (offset + len) ++ c) = parsePropertiesHdr strict s := by
  have htake : (s.take (offset + len)).length = offset + len := List.length_take_of_le hlen
  have hroom : ¬ (s.take (offset + len) ++ c).length < offset + len := by
    rw [List.length_append, htake]
    omega
  have hvbi' : parseVbi strict (s.take (offset + len) ++ c) = .ok (len, offset) :=
    (VariableByteInteger.decode_local strict).take hvbi (Nat.le_add_right _ _)
  unfold parsePropertiesHdr
  rw [hvbi', hvbi, ok_bind, ok_bind]
  dsimp only
  rw [rejectIf_neg _ hroom, rejectIf_neg _ (Nat.not_lt.mpr hlen), ok_bind, ok_bind,
    List.take_append_of_le_length (Nat.le_of_eq htake.symm), List.take_take, Nat.min_self]

theorem parsePropertiesHdr_local (strict : Bool) :
    Local Failure.isErr (parsePropertiesHdr strict) where
  sound s := by
    refine ((VariableByteInteger.decode_local strict).sound s).bind fun ⟨len, offset⟩ _ hoff => ?_
    refine (Meets.rejectIf (Failure.err_isErr _)).bind fun _ _ hlen => ?_
    refine (parseProperties_meets strict _).bind fun p _ hp => .ok ?_
    rw [List.length_drop, List.length_take] at hp
    dsimp only at hoff hlen ⊢
    omega
  cut {s v n} h c := by
    obtain ⟨len, offset, hvbi, rfl, hlen, -⟩ := parsePropertiesHdr_consumed h
    rw [parsePropertiesHdr_cut hvbi hlen, h]

end FlowSdk
