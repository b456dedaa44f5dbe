/-
  FlowSdk.Serde.Stream — the stateful parser of a byte stream (`parser/stream.rs`).

  `MqttParser` keeps what it was fed and an offset behind the frames it has handed out. It
  moves the unread bytes to the front only when that frees at least as many bytes as it
  moves. The offset stays inside the storage, so the unread bytes always exist.

  Seen from outside only the unread bytes matter: `nextParsed` takes frames from them as the
  splitter `frameSplitter` does, and that splitter is stable.

  Main results:
    1. `MqttParser.nextParsed_splits`   `nextParsed` follows the splitter
    2. `frameSplitter_stable`           no answer depends on later bytes
    3. `MqttParser.chunk_invariant`     the chunks of the stream do not matter
    4. `MqttParser.frames_delivered`    the packets of a stream of frames
-/
import FlowSdk.Serde.WholeFrame
import FlowSdk.Wire.Splitter

namespace FlowSdk

open Wire

/-- The parser and its storage. -/
structure MqttParser where
  storage : Bytes
  readOffset : Nat
  mqttVersion : UInt8
  parseLevel : ParseLevel
  readOffset_le : readOffset ≤ storage.length
deriving DecidableEq, Repr

namespace MqttParser

/-- `with_level`; the size hint of the allocation has no effect on what is parsed. -/
def withLevel (mqttVersion : UInt8) (parseLevel : ParseLevel) : MqttParser :=
  { storage := [], readOffset := 0, mqttVersion, parseLevel, readOffset_le := Nat.zero_le _ }

def new (mqttVersion : UInt8) : MqttParser := withLevel mqttVersion .full

def setParseLevel (p : MqttParser) (level : ParseLevel) : MqttParser :=
  { p with parseLevel := level }

/-- The unread bytes. -/
def buffer (p : MqttParser) : Bytes := p.storage.drop p.readOffset

def compact (p : MqttParser) : MqttParser :=
  if p.readOffset ≠ 0 then
    { p with storage := p.buffer, readOffset := 0, readOffset_le := Nat.zero_le _ }
  else p

/-- `buffer_mut`, seen as the compaction it does before it lends the storage. -/
def bufferMut (p : MqttParser) : MqttParser := p.compact

def extend (p : MqttParser) (data : Bytes) : MqttParser :=
  { p with
    storage := p.storage ++ data
    readOffset_le := by rw [List.length_append]; exact Nat.le_add_right_of_le p.readOffset_le }

def feed (p : MqttParser) (data : Bytes) : MqttParser :=
  (if p.readOffset ≠ 0 ∧ p.readOffset ≥ p.buffer.length then p.compact else p).extend data

theorem buffer_length (p : MqttParser) : p.buffer.length = p.storage.length - p.readOffset :=
  List.length_drop

/-- `advance`, with its assertion. A storage read to its end is cleared. -/
def advance (p : MqttParser) (consumed : Nat) : Decode MqttParser :=
  if h : consumed ≤ p.buffer.length then
    if p.readOffset + consumed = p.storage.length then
      .ok { p with storage := [], readOffset := 0, readOffset_le := Nat.zero_le _ }
    else
      .ok { p with
        readOffset := p.readOffset + consumed
        readOffset_le := by
          have hle := p.readOffset_le
          rw [p.buffer_length] at h
          omega }
  else Decode.panic .assertion

def takeFrame (p : MqttParser) (len : Nat) : Decode (Bytes × MqttParser) := do
  let frame ← indexRange p.buffer 0 len
  let p ← p.advance len
  return (frame, p)

/-- The parser moves on when the call succeeds and stays where it was when it fails. -/
def orStay {α : Type} (p : MqttParser) : Decode (α × MqttParser) → Decode α × MqttParser
  | .ok (a, p') => (.ok a, p')
  | .error e => (.error e, p)

def nextPacket (strict : Bool) (p : MqttParser) : Decode (Option MqttPacket) × MqttParser :=
  p.orStay do
    rejectIf (p.mqttVersion = 0) (.panic .assertion)
    if p.buffer = [] then return (none, p)
    else
      match ← packetFrameLen strict p.buffer with
      | none => return (none, p)
      | some frameLen => do
        let frame ← indexRange p.buffer 0 frameLen
        match ← MqttPacket.fromBytesWithVersion strict frame p.mqttVersion with
        | .packet packet consumed => do
          let p ← p.advance consumed
          return (some packet, p)
        | .continue _ _ => return (none, p)
        | .topicName _ _ => Decode.fail (.parseError "Unexpected ParseOk variant")

/-- The answer of a leveled parser on a frame known to be complete. -/
def completeFrame : LeveledParseOk → Decode ParsedPacket
  | .packet packet _ => .ok packet
  | .continue _ _ => Decode.panic .unreachable

/-- Levels 1 and 2: the frame is taken before it is parsed, so it is gone even if it turns
out to be malformed. -/
def nextFrame (strict : Bool) (parse : Bytes → Decode LeveledParseOk) (p : MqttParser) :
    Decode (Option ParsedPacket) × MqttParser :=
  match packetFrameLen strict p.buffer with
  | .error e => (.error e, p)
  | .ok none => (.ok none, p)
  | .ok (some totalLen) =>
    match p.takeFrame totalLen with
    | .error e => (.error e, p)
    | .ok (packetBytes, p') =>
      (do return some (← completeFrame (← parse packetBytes)), p')

def nextParsed (strict : Bool) (p : MqttParser) : Decode (Option ParsedPacket) × MqttParser :=
  if p.buffer = [] then (.ok none, p)
  else
    match p.parseLevel with
    | .full =>
      let (packet, p') := p.nextPacket strict
      (packet.map (Option.map .full), p')
    | .typeOnly =>
      p.orStay do
        match ← parseTypeOnly strict p.buffer with
        | .packet packet consumed => do
          let p ← p.advance consumed
          return (some packet, p)
        | .continue _ _ => return (none, p)
    | .rawBody => p.nextFrame strict (parseRawBody strict)
    | .headersParsed =>
      if p.mqttVersion = 0 then (Decode.panic .assertion, p)
      else p.nextFrame strict fun frame => parseHeadersOnly strict frame p.mqttVersion

/-! ## The unread bytes -/

@[simp] theorem buffer_compact (p : MqttParser) : p.compact.buffer = p.buffer := by
  unfold compact
  split
  · rfl
  · rfl

@[simp] theorem buffer_extend (p : MqttParser) (data : Bytes) :
    (p.extend data).buffer = p.buffer ++ data :=
  List.drop_append_of_le_length p.readOffset_le

/-- Compaction moves bytes but changes none. -/
@[simp] theorem buffer_feed (p : MqttParser) (data : Bytes) :
    (p.feed data).buffer = p.buffer ++ data := by
  unfold feed
  split
  · rw [buffer_extend, buffer_compact]
  · rw [buffer_extend]

/-- What no call changes. -/
structure SameMode (p p' : MqttParser) : Prop where
  version : p'.mqttVersion = p.mqttVersion
  level : p'.parseLevel = p.parseLevel

theorem SameMode.refl (p : MqttParser) : SameMode p p := ⟨rfl, rfl⟩

theorem feed_sameMode (p : MqttParser) (data : Bytes) : SameMode p (p.feed data) := by
  unfold feed compact
  split
  · split <;> exact ⟨rfl, rfl⟩
  · exact ⟨rfl, rfl⟩

theorem advance_ok {p : MqttParser} {n : Nat} (h : n ≤ p.buffer.length) :
    ∃ p', p.advance n = .ok p' ∧ p'.buffer = p.buffer.drop n ∧ SameMode p p' := by
  unfold advance
  rw [dif_pos h]
  split
  · rename_i hend
    refine ⟨_, rfl, ?_, rfl, rfl⟩
    have hall : p.buffer.drop n = [] := by
      rw [buffer, List.drop_drop, hend, List.drop_length]
    rw [hall]
    rfl
  · refine ⟨_, rfl, ?_, rfl, rfl⟩
    rw [buffer, buffer, List.drop_drop]

theorem indexRange_zero {b : Bytes} {n : Nat} (h : n ≤ b.length) :
    indexRange b 0 n = .ok (b.take n) := by
  rw [indexRange, sliceRange, if_pos ⟨Nat.zero_le _, h⟩]
  rfl

theorem takeFrame_ok {p : MqttParser} {n : Nat} (h : n ≤ p.buffer.length) :
    ∃ p', p.takeFrame n = .ok (p.buffer.take n, p') ∧ p'.buffer = p.buffer.drop n ∧
      SameMode p p' := by
  obtain ⟨p', hadv, hbuf, hmode⟩ := advance_ok h
  refine ⟨p', ?_, hbuf, hmode⟩
  rw [takeFrame, indexRange_zero h, ok_bind, hadv]
  rfl

end MqttParser

/-! ## The splitter

What a parser of a given level and version takes from the front of a stream, said without a
buffer: the first frame, as soon as all of it is there. -/

/-- What each level makes of one whole frame. -/
def parseFrame (strict : Bool) (level : ParseLevel) (version : UInt8) (frame : Bytes) :
    Decode ParsedPacket :=
  match level with
  | .full => do
    match ← MqttPacket.fromBytesWithVersion strict frame version with
    | .packet packet _ => return .full packet
    | _ => Decode.panic .unreachable
  | .headersParsed => do MqttParser.completeFrame (← parseHeadersOnly strict frame version)
  | .rawBody => do MqttParser.completeFrame (← parseRawBody strict frame)
  | .typeOnly => do MqttParser.completeFrame (← parseTypeOnly strict frame)

/-- The test a level makes before the frame is complete: level 3 looks at the type, levels 0
and 1 at the protocol version. -/
def admitFirst (level : ParseLevel) (version : UInt8) (first : UInt8) : Decode Unit :=
  match level with
  | .full | .headersParsed => rejectIf (version = 0) (.panic .assertion)
  | .rawBody => .ok ()
  | .typeOnly => do
    let _ ← Decode.check (ControlPacketType.fromFirstByte first)
    return ()

/-- The level that a packet was read at. -/
def ParsedPacket.level : ParsedPacket → ParseLevel
  | .full _ => .full
  | .headersParsed _ => .headersParsed
  | .rawBody _ => .rawBody
  | .typeOnly _ => .typeOnly

/-- What holds of every packet that the body of a leveled parser makes. -/
theorem completeFrame_body {strict : Bool} {frame : Bytes} {packet : ParsedPacket}
    {body : ControlPacketType → UInt8 → Nat → Nat → Decode ParsedPacket} {Q : ParsedPacket → Prop}
    (hbody : ∀ kind flags start len packet, body kind flags start len = .ok packet → Q packet)
    (h : withLeveledFrame strict frame body >>= MqttParser.completeFrame = .ok packet) :
    Q packet := by
  obtain ⟨v, hv, hpacket⟩ := bind_eq_ok.mp h
  cases v with
  | «continue» => cases hpacket
  | packet p n =>
    cases hpacket
    cases frame with
    | nil => cases hv
    | cons first rest =>
      obtain ⟨⟨kind, flags⟩, -, hv⟩ := bind_eq_ok.mp hv
      dsimp only at hv
      split at hv
      · cases hv
      · split at hv
        · split at hv
          · cases hv
          · obtain ⟨parsed, hparsed, heq⟩ := bind_eq_ok.mp hv
            cases heq
            exact hbody _ _ _ _ _ hparsed
        · cases hv
        · cases hv

theorem parseFrame_level {strict : Bool} {level : ParseLevel} {version : UInt8} {frame : Bytes}
    {packet : ParsedPacket} (h : parseFrame strict level version frame = .ok packet) :
    packet.level = level := by
  cases level with
  | full =>
    obtain ⟨v, -, hpacket⟩ := bind_eq_ok.mp h
    cases v <;> cases hpacket
    rfl
  | headersParsed =>
    have h' : parseHeadersOnly strict frame version >>= MqttParser.completeFrame = .ok packet := h
    unfold parseHeadersOnly at h'
    split at h'
    all_goals try
      refine completeFrame_body (Q := fun packet => packet.level = .headersParsed) ?_ h'
      intro kind flags start len parsed hparsed
      obtain ⟨_, -, hparsed⟩ := bind_eq_ok.mp hparsed
      obtain ⟨_, -, hparsed⟩ := bind_eq_ok.mp hparsed
      obtain ⟨_, -, heq⟩ := bind_eq_ok.mp hparsed
      cases heq
      rfl
    cases h'
  | rawBody =>
    refine completeFrame_body (Q := fun packet => packet.level = .rawBody) ?_ h
    intro kind flags start len parsed hparsed
    obtain ⟨_, -, heq⟩ := bind_eq_ok.mp hparsed
    cases heq
    rfl
  | typeOnly =>
    refine completeFrame_body (Q := fun packet => packet.level = .typeOnly) ?_ h
    intro kind flags start len parsed hparsed
    cases hparsed
    rfl

def frameSplitter (strict : Bool) (level : ParseLevel) (version : UInt8) :
    Splitter Failure ParsedPacket UInt8
  | [] => .ok none
  | first :: rest => do
    admitFirst level version first
    match ← packetFrameLen strict (first :: rest) with
    | none => .ok none
    | some n => do
      let packet ← parseFrame strict level version ((first :: rest).take n)
      return some (packet, n)

section

variable {strict : Bool} {level : ParseLevel} {version : UInt8} {b : Bytes}

theorem frameSplitter_none (hb : b ≠ [])
    (hadmits : admitFirst level version (b.headD 0) = .ok ())
    (h : packetFrameLen strict b = .ok none) : frameSplitter strict level version b = .ok none := by
  cases b with
  | nil => exact absurd rfl hb
  | cons first rest =>
    rw [List.headD_cons] at hadmits
    rw [frameSplitter, hadmits, ok_bind, h, ok_bind]

theorem frameSplitter_some {n : Nat} (hadmits : admitFirst level version (b.headD 0) = .ok ())
    (h : packetFrameLen strict b = .ok (some n)) :
    frameSplitter strict level version b =
      (parseFrame strict level version (b.take n)).map fun packet => some (packet, n) := by
  cases b with
  | nil => cases h
  | cons first rest =>
    rw [List.headD_cons] at hadmits
    rw [frameSplitter, hadmits, ok_bind, h, ok_bind]
    dsimp only
    cases parseFrame strict level version ((first :: rest).take n) with
    | error e => rfl
    | ok packet => rfl

theorem frameSplitter_error {e : Failure} (hadmits : admitFirst level version (b.headD 0) = .ok ())
    (h : packetFrameLen strict b = .error e) : frameSplitter strict level version b = .error e := by
  cases b with
  | nil => cases h
  | cons first rest =>
    rw [List.headD_cons] at hadmits
    rw [frameSplitter, hadmits, ok_bind, h, error_bind]

theorem frameSplitter_reject {e : Failure} (hb : b ≠ [])
    (hadmits : admitFirst level version (b.headD 0) = .error e) :
    frameSplitter strict level version b = .error e := by
  cases b with
  | nil => exact absurd rfl hb
  | cons first rest =>
    rw [List.headD_cons] at hadmits
    rw [frameSplitter, hadmits, error_bind]

/-- The ways the splitter can answer. -/
theorem frameSplitter_cases (strict : Bool) (level : ParseLevel) (version : UInt8) (b : Bytes) :
    b = [] ∨
    (b ≠ [] ∧ ∃ e, admitFirst level version (b.headD 0) = .error e ∧
      frameSplitter strict level version b = .error e) ∨
    (b ≠ [] ∧ admitFirst level version (b.headD 0) = .ok () ∧
      ((∃ e, packetFrameLen strict b = .error e ∧
          frameSplitter strict level version b = .error e) ∨
       (packetFrameLen strict b = .ok none ∧ frameSplitter strict level version b = .ok none) ∨
       (∃ n, packetFrameLen strict b = .ok (some n) ∧ frameSplitter strict level version b =
          (parseFrame strict level version (b.take n)).map fun packet => some (packet, n)))) := by
  by_cases hb : b = []
  · exact .inl hb
  refine .inr ?_
  cases hadmits : admitFirst level version (b.headD 0) with
  | error e => exact .inl ⟨hb, e, rfl, frameSplitter_reject hb hadmits⟩
  | ok _ =>
    refine .inr ⟨hb, rfl, ?_⟩
    cases hlen : packetFrameLen strict b with
    | error e => exact .inl ⟨e, rfl, frameSplitter_error hadmits hlen⟩
    | ok o =>
      cases o with
      | none => exact .inr (.inl ⟨rfl, frameSplitter_none hb hadmits hlen⟩)
      | some n => exact .inr (.inr ⟨n, rfl, frameSplitter_some hadmits hlen⟩)

theorem headD_append {b : Bytes} (hb : b ≠ []) (c : Bytes) : (b ++ c).headD 0 = b.headD 0 := by
  cases b with
  | nil => exact absurd rfl hb
  | cons first rest => rfl

/-- An item is the first frame, complete and well formed. -/
theorem frameSplitter_item {packet : ParsedPacket} {n : Nat}
    (h : frameSplitter strict level version b = .ok (some (packet, n))) :
    admitFirst level version (b.headD 0) = .ok () ∧ packetFrameLen strict b = .ok (some n) ∧
      parseFrame strict level version (b.take n) = .ok packet := by
  rcases frameSplitter_cases strict level version b with rfl | ⟨-, e, -, heq⟩ |
    ⟨-, hadmits, ⟨e, -, heq⟩ | ⟨-, heq⟩ | ⟨m, hlen, heq⟩⟩
  · cases h
  · rw [h] at heq; cases heq
  · rw [h] at heq; cases heq
  · rw [h] at heq; cases heq
  · rw [h] at heq
    cases hparse : parseFrame strict level version (b.take m) with
    | error e => rw [hparse] at heq; cases heq
    | ok packet => rw [hparse] at heq; cases heq; exact ⟨hadmits, hlen, hparse⟩

/-- Once the first frame is complete, or known to be malformed, later bytes do not change
what is made of it. -/
theorem frameSplitter_stable (strict : Bool) (level : ParseLevel) (version : UInt8) :
    Stable (frameSplitter strict level version) := by
  refine ⟨?_, ?_, ?_, ?_⟩
  · intro b packet n h c
    obtain ⟨hadmits, hlen, hparse⟩ := frameSplitter_item h
    obtain ⟨hlen', htake⟩ := packetFrameLen_append hlen c
    have hb : b ≠ [] := by rintro rfl; cases hlen
    rw [← headD_append hb c] at hadmits
    rw [frameSplitter_some hadmits hlen', htake, hparse]
    rfl
  · intro b e h c
    rcases frameSplitter_cases strict level version b with rfl | ⟨hb, e', hadmits, heq⟩ |
      ⟨hb, hadmits, ⟨e', hlen, heq⟩ | ⟨-, heq⟩ | ⟨n, hlen, heq⟩⟩
    · cases h
    · rw [h] at heq
      cases heq
      rw [← headD_append hb c] at hadmits
      exact frameSplitter_reject (List.append_ne_nil_of_left_ne_nil hb c) hadmits
    · rw [h] at heq
      cases heq
      rw [← headD_append hb c] at hadmits
      exact frameSplitter_error hadmits (packetFrameLen_error hlen c)
    · rw [h] at heq; cases heq
    · obtain ⟨hlen', htake⟩ := packetFrameLen_append hlen c
      rw [← headD_append hb c] at hadmits
      rw [frameSplitter_some hadmits hlen', htake, ← heq, h]
  · intro b packet n h
    exact Nat.lt_of_lt_of_le Nat.zero_lt_two (packetFrameLen_le (frameSplitter_item h).2.1).1
  · intro b packet n h
    exact (packetFrameLen_le (frameSplitter_item h).2.1).2

end

/-! ## The parser follows the splitter -/

namespace MqttParser

variable {strict : Bool}

/-- The result of one call compared with the answer of the splitter. -/
def Splits (p : MqttParser) (r : Decode (Option ParsedPacket) × MqttParser) :
    Decode (Option (ParsedPacket × Nat)) → Prop
  | .error e => r.1 = .error e
  | .ok none => r = (.ok none, p)
  | .ok (some (packet, n)) =>
    r.1 = .ok (some packet) ∧ r.2.buffer = p.buffer.drop n ∧ SameMode p r.2

theorem nextPacket_some {p : MqttParser} {n : Nat} (hv : p.mqttVersion ≠ 0)
    (h : packetFrameLen strict p.buffer = .ok (some n)) :
    (∃ e, parseFrame strict .full p.mqttVersion (p.buffer.take n) = .error e ∧
      p.nextPacket strict = (.error e, p)) ∨
    (∃ packet p', parseFrame strict .full p.mqttVersion (p.buffer.take n) = .ok (.full packet) ∧
      p.nextPacket strict = (.ok (some packet), p') ∧ p'.buffer = p.buffer.drop n ∧
      SameMode p p') := by
  have hne : p.buffer ≠ [] := by intro hnil; rw [hnil] at h; cases h
  have hle := (packetFrameLen_le h).2
  obtain ⟨hframe, hlen⟩ := IsFrame.of_take h
  have hans := MqttPacket.fromBytesWithVersion_answers hframe p.mqttVersion
  cases hparse : MqttPacket.fromBytesWithVersion strict (p.buffer.take n) p.mqttVersion with
  | error e =>
    refine .inl ⟨e, by rw [parseFrame, hparse, error_bind], ?_⟩
    simp only [nextPacket, rejectIf_neg _ hv, ok_bind, if_neg hne, h, indexRange_zero hle, hparse,
      error_bind, orStay]
  | ok v =>
    obtain ⟨packet, rfl⟩ := hans v hparse
    rw [hlen] at hparse
    obtain ⟨p', hadv, hbuf, hmode⟩ := advance_ok hle
    refine .inr ⟨packet, p', by rw [parseFrame, hparse]; rfl, ?_, hbuf, hmode⟩
    simp only [nextPacket, rejectIf_neg _ hv, ok_bind, if_neg hne, h, indexRange_zero hle, hparse,
      hadv, pure_eq_ok, orStay]

theorem nextFrame_some {p : MqttParser} {n : Nat} (parse : Bytes → Decode LeveledParseOk)
    (h : packetFrameLen strict p.buffer = .ok (some n)) :
    ∃ p', p.nextFrame strict parse =
        ((parse (p.buffer.take n) >>= completeFrame).map some, p') ∧
      p'.buffer = p.buffer.drop n ∧ SameMode p p' := by
  obtain ⟨p', htake, hbuf, hmode⟩ := takeFrame_ok (packetFrameLen_le h).2
  refine ⟨p', ?_, hbuf, hmode⟩
  simp only [nextFrame, h, htake]
  cases parse (p.buffer.take n) with
  | error e => rfl
  | ok v => cases hv : completeFrame v <;> simp [hv, Except.map]

/-- Taking the type off the front of the buffer or off the frame alone is the same. -/
theorem parseTypeOnly_take {b : Bytes} {n : Nat} (h : packetFrameLen strict b = .ok (some n)) :
    parseTypeOnly strict (b.take n) = parseTypeOnly strict b := by
  obtain ⟨frame, rest, rfl, rfl, hle, hall⟩ := packetFrameLen_frame h
  have hnil := hall []
  rw [List.append_nil] at hnil
  have hne : frame ≠ [] := by rintro rfl; cases hnil
  obtain ⟨_, _, -, hfront⟩ := withLeveledFrame_some hnil
  obtain ⟨_, _, -, hwhole⟩ := withLeveledFrame_some h
  rw [List.take_left, parseTypeOnly, parseTypeOnly, hfront, hwhole, headD_append hne]

/-- Levels 1 and 2 once their first test has passed. -/
theorem nextFrame_splits {p : MqttParser} {parse : Bytes → Decode LeveledParseOk}
    {level : ParseLevel} (hb : p.buffer ≠ [])
    (hadmits : admitFirst level p.mqttVersion (p.buffer.headD 0) = .ok ())
    (hparse : ∀ frame, parseFrame strict level p.mqttVersion frame =
      parse frame >>= completeFrame) :
    Splits p (p.nextFrame strict parse) (frameSplitter strict level p.mqttVersion p.buffer) := by
  cases hlen : packetFrameLen strict p.buffer with
  | error e =>
    rw [frameSplitter_error hadmits hlen]
    simp only [Splits, nextFrame, hlen]
  | ok o =>
    cases o with
    | none =>
      rw [frameSplitter_none hb hadmits hlen]
      simp only [Splits, nextFrame, hlen]
    | some n =>
      obtain ⟨p', hnext, hbuf, hmode⟩ := nextFrame_some parse hlen
      rw [frameSplitter_some hadmits hlen, hparse, hnext]
      cases parse (p.buffer.take n) >>= completeFrame with
      | error e => exact rfl
      | ok packet => exact ⟨rfl, hbuf, hmode⟩

theorem nextPacket_splits {p : MqttParser} (hb : p.buffer ≠ []) (hlevel : p.parseLevel = .full) :
    Splits p (p.nextParsed strict) (frameSplitter strict .full p.mqttVersion p.buffer) := by
  by_cases hv : p.mqttVersion = 0
  · rw [frameSplitter_reject hb (e := .panic .assertion) (by rw [admitFirst, rejectIf_pos _ hv])]
    simp only [Splits, nextParsed, if_neg hb, hlevel, nextPacket, rejectIf_pos _ hv, error_bind,
      orStay, Except.map]
  have hadmits : admitFirst .full p.mqttVersion (p.buffer.headD 0) = .ok () := by
    rw [admitFirst, rejectIf_neg _ hv]
  cases hlen : packetFrameLen strict p.buffer with
  | error e =>
    rw [frameSplitter_error hadmits hlen]
    simp only [Splits, nextParsed, if_neg hb, hlevel, nextPacket, rejectIf_neg _ hv, ok_bind, hlen,
      error_bind, orStay, Except.map]
  | ok o =>
    cases o with
    | none =>
      rw [frameSplitter_none hb hadmits hlen]
      simp only [Splits, nextParsed, if_neg hb, hlevel, nextPacket, rejectIf_neg _ hv, ok_bind,
        hlen, pure_eq_ok, orStay, Except.map, Option.map]
    | some n =>
      rw [frameSplitter_some hadmits hlen, nextParsed, if_neg hb, hlevel]
      rcases nextPacket_some hv hlen with ⟨e, hparse, hnext⟩ |
        ⟨packet, p', hparse, hnext, hbuf, hmode⟩
      · rw [hparse, hnext]
        exact rfl
      · rw [hparse, hnext]
        exact ⟨rfl, hbuf, hmode⟩

theorem typeOnly_splits {p : MqttParser} (hb : p.buffer ≠ []) (hlevel : p.parseLevel = .typeOnly) :
    Splits p (p.nextParsed strict) (frameSplitter strict .typeOnly p.mqttVersion p.buffer) := by
  rw [nextParsed, if_neg hb, hlevel]
  cases htype : Decode.check (ControlPacketType.fromFirstByte (p.buffer.headD 0)) with
  | error e =>
    have hreject : admitFirst .typeOnly p.mqttVersion (p.buffer.headD 0) = .error e := by
      rw [admitFirst, htype, error_bind]
    rw [frameSplitter_reject hb hreject]
    have hfail : parseTypeOnly strict p.buffer = .error e := by
      rw [parseTypeOnly]
      cases hbuf : p.buffer with
      | nil => exact absurd hbuf hb
      | cons first rest =>
        rw [hbuf, List.headD_cons] at htype
        rw [withLeveledFrame, htype, error_bind]
    simp only [Splits, hfail, error_bind, orStay]
  | ok tf =>
    have hadmits : admitFirst .typeOnly p.mqttVersion (p.buffer.headD 0) = .ok () := by
      rw [admitFirst, htype, ok_bind, pure_eq_ok]
    cases hlen : packetFrameLen strict p.buffer with
    | error e =>
      rw [frameSplitter_error hadmits hlen]
      simp only [Splits, parseTypeOnly, withLeveledFrame_error hlen, htype, ok_bind, error_bind,
        orStay]
    | ok o =>
      cases o with
      | none =>
        obtain ⟨hint, hwait⟩ := withLeveledFrame_none hb hlen
        rw [frameSplitter_none hb hadmits hlen]
        simp only [Splits, parseTypeOnly, hwait, htype, ok_bind, pure_eq_ok, orStay]
      | some n =>
        obtain ⟨_, _, -, hwhole⟩ := withLeveledFrame_some hlen
        obtain ⟨p', hadv, hbuf, hmode⟩ := advance_ok (packetFrameLen_le hlen).2
        have hans : parseTypeOnly strict p.buffer = .ok (.packet (.typeOnly ⟨tf.1, tf.2⟩) n) := by
          rw [parseTypeOnly, hwhole, htype, ok_bind, ok_bind, pure_eq_ok]
        rw [frameSplitter_some hadmits hlen, parseFrame, parseTypeOnly_take hlen, hans]
        dsimp only
        rw [ok_bind, ok_bind]
        dsimp only
        rw [hadv]
        exact ⟨rfl, hbuf, hmode⟩

/-- One call answers what the splitter answers about the unread bytes, and drops from them
what the item takes. -/
theorem nextParsed_splits (strict : Bool) (p : MqttParser) :
    Splits p (p.nextParsed strict)
      (frameSplitter strict p.parseLevel p.mqttVersion p.buffer) := by
  by_cases hb : p.buffer = []
  · rw [nextParsed, if_pos hb, hb]
    exact rfl
  cases hlevel : p.parseLevel with
  | full => exact nextPacket_splits hb hlevel
  | typeOnly => exact typeOnly_splits hb hlevel
  | rawBody =>
    rw [nextParsed, if_neg hb, hlevel]
    exact nextFrame_splits hb rfl fun _ => rfl
  | headersParsed =>
    rw [nextParsed, if_neg hb, hlevel]
    by_cases hv : p.mqttVersion = 0
    · dsimp only
      rw [if_pos hv, frameSplitter_reject hb (e := .panic .assertion)
        (by rw [admitFirst, rejectIf_pos _ hv])]
      exact rfl
    · dsimp only
      rw [if_neg hv]
      exact nextFrame_splits hb (by rw [admitFirst, rejectIf_neg _ hv]) fun _ => rfl

/-- A packet that is handed out is the first frame of the unread bytes. -/
theorem nextParsed_frame {p : MqttParser} {packet : ParsedPacket}
    (h : (p.nextParsed strict).1 = .ok (some packet)) :
    ∃ n, packetFrameLen strict p.buffer = .ok (some n) ∧
      parseFrame strict p.parseLevel p.mqttVersion (p.buffer.take n) = .ok packet := by
  have hsplits := nextParsed_splits strict p
  cases hsplit : frameSplitter strict p.parseLevel p.mqttVersion p.buffer with
  | error e =>
    rw [hsplit] at hsplits
    cases h.symm.trans hsplits
  | ok o =>
    rw [hsplit] at hsplits
    cases o with
    | none =>
      have hnext : p.nextParsed strict = (.ok none, p) := hsplits
      rw [hnext] at h
      cases h
    | some item =>
      cases h.symm.trans hsplits.1
      exact ⟨item.2, (frameSplitter_item hsplit).2⟩

/-- A parser hands out packets of its own level. -/
theorem nextParsed_level {p : MqttParser} {packet : ParsedPacket}
    (h : (p.nextParsed strict).1 = .ok (some packet)) : packet.level = p.parseLevel := by
  obtain ⟨n, -, hparse⟩ := nextParsed_frame h
  exact parseFrame_level hparse

/-! ## Runs -/

/-- Packets handed out, the failure that ended the run if there was one, and the parser. -/
structure Run where
  packets : List ParsedPacket
  failure : Option Failure
  parser : MqttParser
deriving DecidableEq, Repr

/-- `next_parsed` until it answers `Ok(None)` or fails. Every packet takes bytes off the
buffer, so more turns than there are unread bytes are never made. -/
def drain (strict : Bool) : Nat → MqttParser → Run
  | 0, p => { packets := [], failure := none, parser := p }
  | turns + 1, p =>
    match p.nextParsed strict with
    | (.ok none, p) => { packets := [], failure := none, parser := p }
    | (.error e, p) => { packets := [], failure := some e, parser := p }
    | (.ok (some packet), p) =>
      let rest := drain strict turns p
      { rest with packets := packet :: rest.packets }

/-- Each chunk is fed and drained, up to the first failure. -/
def feedAll (strict : Bool) (p : MqttParser) : List Bytes → Run
  | [] => { packets := [], failure := none, parser := p }
  | chunk :: chunks =>
    let p := p.feed chunk
    let first := drain strict (p.buffer.length + 1) p
    match first.failure with
    | some _ => first
    | none =>
      let rest := feedAll strict first.parser chunks
      { rest with packets := first.packets ++ rest.packets }

/-- The loop drains the unread bytes as the splitter does. After a failure the parser may
already have dropped the malformed frame. -/
theorem drain_drains (strict : Bool) (level : ParseLevel) (version : UInt8) :
    ∀ (turns : Nat) (p : MqttParser), p.parseLevel = level → p.mqttVersion = version →
      p.buffer.length < turns →
      ∃ rest, Drains (frameSplitter strict level version) p.buffer (drain strict turns p).packets
          (drain strict turns p).failure rest ∧
        ((drain strict turns p).failure = none → (drain strict turns p).parser.buffer = rest ∧
          (drain strict turns p).parser.parseLevel = level ∧
          (drain strict turns p).parser.mqttVersion = version) := by
  intro turns
  induction turns with
  | zero => intro p _ _ hlt; exact absurd hlt (Nat.not_lt_zero _)
  | succ turns ih =>
    intro p hlevel hversion hlt
    have hsplits := nextParsed_splits strict p
    rw [hlevel, hversion] at hsplits
    have hstable := frameSplitter_stable strict level version
    cases hsplit : frameSplitter strict level version p.buffer with
    | error e =>
      rw [hsplit] at hsplits
      obtain ⟨⟨r, p'⟩, hnext⟩ : ∃ r, p.nextParsed strict = r := ⟨_, rfl⟩
      rw [hnext] at hsplits
      cases hsplits
      rw [drain, hnext]
      exact ⟨p.buffer, .fail hsplit, fun hf => nomatch hf⟩
    | ok o =>
      rw [hsplit] at hsplits
      cases o with
      | none =>
        have hnext : p.nextParsed strict = (.ok none, p) := hsplits
        rw [drain, hnext]
        exact ⟨p.buffer, .stop hsplit, fun _ => ⟨rfl, hlevel, hversion⟩⟩
      | some item =>
        obtain ⟨packet, n⟩ := item
        obtain ⟨⟨r, p'⟩, hnext⟩ : ∃ r, p.nextParsed strict = r := ⟨_, rfl⟩
        rw [hnext] at hsplits
        obtain ⟨hr, hbuf, hmode⟩ := hsplits
        dsimp only at hr hbuf hmode
        subst hr
        have hpos := hstable.item_pos hsplit
        have hle := hstable.item_le hsplit
        have hlt' : p'.buffer.length < turns := by
          rw [hbuf, List.length_drop]
          omega
        obtain ⟨rest, hdrains, hend⟩ := ih p' (hmode.level.trans hlevel)
          (hmode.version.trans hversion) hlt'
        rw [drain, hnext]
        rw [hbuf] at hdrains
        exact ⟨rest, .item hsplit hdrains, hend⟩

theorem feedAll_feeds (strict : Bool) (level : ParseLevel) (version : UInt8) :
    ∀ (chunks : List Bytes) (p : MqttParser), p.parseLevel = level → p.mqttVersion = version →
      ∃ rest, Feeds (frameSplitter strict level version) p.buffer chunks
          (feedAll strict p chunks).packets (feedAll strict p chunks).failure rest ∧
        ((feedAll strict p chunks).failure = none →
          (feedAll strict p chunks).parser.buffer = rest ∧
          (feedAll strict p chunks).parser.parseLevel = level ∧
          (feedAll strict p chunks).parser.mqttVersion = version) := by
  intro chunks
  induction chunks with
  | nil =>
    intro p hlevel hversion
    exact ⟨p.buffer, .done, fun _ => ⟨rfl, hlevel, hversion⟩⟩
  | cons chunk chunks ih =>
    intro p hlevel hversion
    have hmode := p.feed_sameMode chunk
    obtain ⟨rest, hdrains, hend⟩ := drain_drains strict level version
      ((p.feed chunk).buffer.length + 1) (p.feed chunk) (hmode.level.trans hlevel)
      (hmode.version.trans hversion) (Nat.lt_succ_self _)
    rw [feedAll]
    dsimp only
    generalize drain strict ((p.feed chunk).buffer.length + 1) (p.feed chunk) = first at *
    rw [buffer_feed] at hdrains
    cases hfirst : first.failure with
    | some e =>
      rw [hfirst] at hdrains
      refine ⟨rest, ?_, fun hf => ?_⟩
      · rw [hfirst]; exact .fail hdrains
      · rw [hfirst] at hf; cases hf
    | none =>
      rw [hfirst] at hdrains
      obtain ⟨hbuf, hlevel', hversion'⟩ := hend hfirst
      obtain ⟨rest', hfeeds, hrest'⟩ := ih first.parser hlevel' hversion'
      rw [hbuf] at hfeeds
      exact ⟨rest', .next hdrains hfeeds, hrest'⟩

/-! ## Bookkeeping -/

/-- How many bytes a call of `next_parsed` takes off the buffer: a whole frame when it hands
out a packet, and at levels 1 and 2 also when the frame turns out to be malformed. -/
def taken (strict : Bool) (p : MqttParser) : Nat :=
  match packetFrameLen strict p.buffer with
  | .ok (some n) =>
    match p.parseLevel with
    | .rawBody => n
    | .headersParsed => if p.mqttVersion = 0 then 0 else n
    | .full | .typeOnly =>
      match (p.nextParsed strict).1 with
      | .ok (some _) => n
      | _ => 0
  | _ => 0

theorem taken_le (strict : Bool) (p : MqttParser) : p.taken strict ≤ p.buffer.length := by
  unfold taken
  split
  · rename_i n hlen
    have hle := (packetFrameLen_le hlen).2
    split
    · exact hle
    · split
      · exact Nat.zero_le _
      · exact hle
    · split
      · exact hle
      · exact Nat.zero_le _
    · split
      · exact hle
      · exact Nat.zero_le _
  · exact Nat.zero_le _

theorem orStay_error {α : Type} {p : MqttParser} {x : Decode (α × MqttParser)} {e : Failure}
    (h : (p.orStay x).1 = .error e) : (p.orStay x).2 = p := by
  cases x with
  | error e => rfl
  | ok v => cases h

/-- At levels 1 and 2 the frame is gone whatever is made of it. -/
theorem nextFrame_rest (strict : Bool) (p : MqttParser) (parse : Bytes → Decode LeveledParseOk) :
    SameMode p (p.nextFrame strict parse).2 ∧
      (p.nextFrame strict parse).2.buffer = match packetFrameLen strict p.buffer with
        | .ok (some n) => p.buffer.drop n
        | _ => p.buffer := by
  cases hlen : packetFrameLen strict p.buffer with
  | error e =>
    simp only [nextFrame, hlen]
    exact ⟨.refl p, trivial⟩
  | ok o =>
    cases o with
    | none =>
      simp only [nextFrame, hlen]
      exact ⟨.refl p, trivial⟩
    | some n =>
      obtain ⟨p', hnext, hbuf, hmode⟩ := nextFrame_some parse hlen
      rw [hnext]
      exact ⟨hmode, hbuf⟩

/-- Levels 0 and 3 hand out a packet and drop its frame, or leave the buffer alone. -/
theorem nextParsed_keeps (strict : Bool) {p : MqttParser}
    (hlevel : p.parseLevel = .full ∨ p.parseLevel = .typeOnly) :
    (∃ packet n, packetFrameLen strict p.buffer = .ok (some n) ∧
      (p.nextParsed strict).1 = .ok (some packet) ∧
      (p.nextParsed strict).2.buffer = p.buffer.drop n ∧ SameMode p (p.nextParsed strict).2) ∨
    ((∀ packet, (p.nextParsed strict).1 ≠ .ok (some packet)) ∧ (p.nextParsed strict).2 = p) := by
  have hsplits := nextParsed_splits strict p
  cases hsplit : frameSplitter strict p.parseLevel p.mqttVersion p.buffer with
  | ok o =>
    rw [hsplit] at hsplits
    cases o with
    | none =>
      have hnext : p.nextParsed strict = (.ok none, p) := hsplits
      rw [hnext]
      exact .inr ⟨fun _ h => (by cases h), rfl⟩
    | some item =>
      obtain ⟨packet, n⟩ := item
      obtain ⟨hr, hbuf, hmode⟩ := hsplits
      exact .inl ⟨packet, n, (frameSplitter_item hsplit).2.1, hr, hbuf, hmode⟩
  | error e =>
    rw [hsplit] at hsplits
    have hr : (p.nextParsed strict).1 = .error e := hsplits
    refine .inr ⟨fun packet h => (by rw [hr] at h; cases h), ?_⟩
    unfold nextParsed at hr ⊢
    split at hr
    · cases hr
    · rename_i hb
      rw [if_neg hb]
      rcases hlevel with hlevel | hlevel
      · rw [hlevel] at hr ⊢
        dsimp only at hr ⊢
        unfold nextPacket at hr ⊢
        refine orStay_error (e := e) ?_
        generalize (p.orStay _).1 = r at hr ⊢
        cases r with
        | error e' => exact congrArg _ (Except.error.inj hr)
        | ok o => cases hr
      · rw [hlevel] at hr ⊢
        exact orStay_error hr

/-- What a call leaves is what was there without the bytes it takes. -/
theorem nextParsed_taken (strict : Bool) (p : MqttParser) :
    SameMode p (p.nextParsed strict).2 ∧
      (p.nextParsed strict).2.buffer = p.buffer.drop (p.taken strict) := by
  by_cases hb : p.buffer = []
  · rw [nextParsed, if_pos hb, hb, List.drop_nil]
    exact ⟨.refl p, rfl⟩
  cases hlevel : p.parseLevel with
  | full | typeOnly =>
    rcases nextParsed_keeps strict (p := p) (by simp [hlevel]) with
      ⟨packet, n, hlen, hr, hbuf, hmode⟩ | ⟨hr, hstay⟩
    · have htaken : p.taken strict = n := by simp only [taken, hlen, hlevel, hr]
      rw [htaken]
      exact ⟨hmode, hbuf⟩
    · have htaken : p.taken strict = 0 := by
        simp only [taken, hlevel]
        split <;> rfl
      rw [htaken, hstay]
      exact ⟨.refl p, rfl⟩
  | rawBody =>
    have hrest := nextFrame_rest strict p (parseRawBody strict)
    rw [nextParsed, if_neg hb, hlevel]
    refine ⟨hrest.1, hrest.2.trans ?_⟩
    unfold taken
    split <;> simp only [hlevel, List.drop_zero]
  | headersParsed =>
    rw [nextParsed, if_neg hb, hlevel]
    dsimp only
    by_cases hv : p.mqttVersion = 0
    · rw [if_pos hv]
      have htaken : p.taken strict = 0 := by
        simp only [taken, hlevel, if_pos hv]
        split <;> rfl
      rw [htaken]
      exact ⟨.refl p, rfl⟩
    · rw [if_neg hv]
      have hrest := nextFrame_rest strict p
        fun frame => parseHeadersOnly strict frame p.mqttVersion
      refine ⟨hrest.1, hrest.2.trans ?_⟩
      unfold taken
      split <;> simp only [hlevel, if_neg hv, List.drop_zero]

/-- A call on the parser. -/
inductive Call where
  | feed (data : Bytes)
  | nextParsed
  | setParseLevel (level : ParseLevel)
  | bufferMut

/-- A parser with all bytes it was fed and the number of those it has handed out. -/
structure Traffic where
  parser : MqttParser
  fed : Bytes
  consumed : Nat

def Traffic.call (strict : Bool) (t : Traffic) : Call → Traffic
  | .feed data => { t with parser := t.parser.feed data, fed := t.fed ++ data }
  | .nextParsed =>
    { t with
      parser := (t.parser.nextParsed strict).2
      consumed := t.consumed + t.parser.taken strict }
  | .setParseLevel level => { t with parser := t.parser.setParseLevel level }
  | .bufferMut => { t with parser := t.parser.bufferMut }

/-- The unread bytes are what was fed and not consumed. -/
def Traffic.Accounted (t : Traffic) : Prop :=
  t.parser.buffer = t.fed.drop t.consumed ∧ t.consumed ≤ t.fed.length

theorem Traffic.call_accounted {t : Traffic} (h : t.Accounted) (c : Call) :
    (t.call strict c).Accounted := by
  obtain ⟨hbuf, hle⟩ := h
  cases c with
  | feed data =>
    refine ⟨?_, ?_⟩
    · rw [call, buffer_feed, hbuf, List.drop_append_of_le_length hle]
    · rw [call, List.length_append]
      exact Nat.le_add_right_of_le hle
  | nextParsed =>
    have htaken := taken_le strict t.parser
    refine ⟨?_, ?_⟩
    · rw [call, (nextParsed_taken strict t.parser).2, hbuf, List.drop_drop]
    · rw [hbuf, List.length_drop] at htaken
      simp only [call]
      omega
  | setParseLevel level => exact ⟨hbuf, hle⟩
  | bufferMut => exact ⟨(buffer_compact _).trans hbuf, hle⟩

def Traffic.run (strict : Bool) (t : Traffic) (calls : List Call) : Traffic :=
  calls.foldl (Traffic.call strict) t

theorem Traffic.run_accounted {t : Traffic} (h : t.Accounted) (calls : List Call) :
    (t.run strict calls).Accounted := by
  induction calls generalizing t with
  | nil => exact h
  | cons c calls ih => exact ih (call_accounted h c)

/-! ## Chunk invariance -/

/-- A complete frame at level 0 is either malformed or handed out and dropped as a whole. -/
theorem nextParsed_complete {p : MqttParser} {n : Nat} (hv : p.mqttVersion ≠ 0)
    (hlevel : p.parseLevel = .full) (h : packetFrameLen strict p.buffer = .ok (some n)) :
    (p.nextParsed strict).1 ≠ .ok none ∧ ∀ packet, (p.nextParsed strict).1 = .ok (some packet) →
      (p.nextParsed strict).2.buffer = p.buffer.drop n := by
  have hb : p.buffer ≠ [] := by intro hnil; rw [hnil] at h; cases h
  rw [nextParsed, if_neg hb, hlevel]
  rcases nextPacket_some hv h with ⟨e, -, hnext⟩ | ⟨packet, p', -, hnext, hbuf, -⟩
  · rw [hnext]
    dsimp only [Except.map]
    exact ⟨fun hr => (by cases hr), fun _ hr => (by cases hr)⟩
  · rw [hnext]
    dsimp only [Except.map, Option.map]
    exact ⟨fun hr => Option.some_ne_none _ (Except.ok.inj hr), fun _ _ => hbuf⟩

/-- The packets, the failure and, when nothing failed, the unread bytes do not depend on the
chunks the stream came in. -/
theorem feedAll_flatten (strict : Bool) (level : ParseLevel) (version : UInt8)
    (chunks : List Bytes) :
    let parts := feedAll strict (withLevel version level) chunks
    let whole := feedAll strict (withLevel version level) [chunks.flatten]
    parts.packets = whole.packets ∧ parts.failure = whole.failure ∧
      (whole.failure = none → parts.parser.buffer = whole.parser.buffer) := by
  intro parts whole
  have hstable := frameSplitter_stable strict level version
  obtain ⟨rest, hparts, hrest⟩ :=
    feedAll_feeds strict level version chunks (withLevel version level) rfl rfl
  obtain ⟨rest', hwhole, hrest'⟩ :=
    feedAll_feeds strict level version [chunks.flatten] (withLevel version level) rfl rfl
  obtain ⟨end₁, hdrains₁, hend₁⟩ := hparts.drains hstable rfl
  obtain ⟨end₂, hdrains₂, hend₂⟩ := hwhole.drains hstable rfl
  rw [List.flatten_cons, List.flatten_nil, List.append_nil] at hdrains₂
  obtain ⟨hpackets, hfailure, hends⟩ := hdrains₁.functional hdrains₂
  refine ⟨hpackets, hfailure, fun hnone => ?_⟩
  rw [(hrest (hfailure.trans hnone)).1, (hrest' hnone).1, ← hend₁ (hfailure.trans hnone),
    ← hend₂ hnone, hends]

/-- A run without failure has asked for the next packet until there was none. -/
theorem feedAll_drained {level : ParseLevel} {version : UInt8} {chunks : List Bytes}
    (h : (feedAll strict (withLevel version level) chunks).failure = none) :
    ((feedAll strict (withLevel version level) chunks).parser.nextParsed strict).1 = .ok none := by
  obtain ⟨rest, hparts, hrest⟩ :=
    feedAll_feeds strict level version chunks (withLevel version level) rfl rfl
  obtain ⟨hbuf, hlevel, hversion⟩ := hrest h
  obtain ⟨last, hdrains, hlast⟩ := hparts.drains (frameSplitter_stable strict level version) rfl
  rw [h] at hdrains
  have hsplits := nextParsed_splits strict
    (feedAll strict (withLevel version level) chunks).parser
  rw [hlevel, hversion, hbuf, ← hlast h, hdrains.rest_none] at hsplits
  exact congrArg Prod.fst hsplits

/-- Framing does not depend on the chunks: for every level and version, feeding a stream chunk
by chunk and draining after each hands out the same packets, fails in the same case and leaves
the same unread bytes as feeding it at once; the unread bytes are always what was fed and not
consumed; and a complete frame at level 0 is never waited for and is consumed to its end. -/
theorem chunk_invariant (strict : Bool) (level : ParseLevel) (version : UInt8)
    (hversion : version = 3 ∨ version = 4 ∨ version = 5) :
    (∀ chunks : List Bytes,
      let parts := feedAll strict (withLevel version level) chunks
      let whole := feedAll strict (withLevel version level) [chunks.flatten]
      parts.packets = whole.packets ∧ parts.failure = whole.failure ∧
        (whole.failure = none → parts.parser.buffer = whole.parser.buffer ∧
          (parts.parser.nextParsed strict).1 = .ok none ∧
          (whole.parser.nextParsed strict).1 = .ok none)) ∧
    (∀ calls : List Call,
      let t := Traffic.run strict ⟨withLevel version level, [], 0⟩ calls
      t.parser.buffer = t.fed.drop t.consumed ∧ t.consumed ≤ t.fed.length) ∧
    (∀ (p : MqttParser) (n : Nat), p.mqttVersion = version → p.parseLevel = .full →
      packetFrameLen strict p.buffer = .ok (some n) →
      (p.nextParsed strict).1 ≠ .ok none ∧ ∀ packet, (p.nextParsed strict).1 = .ok (some packet) →
        (p.nextParsed strict).2.buffer = p.buffer.drop n) := by
  refine ⟨fun chunks => ?_, fun calls => ?_, fun p n hv hlevel hlen => ?_⟩
  · obtain ⟨hpackets, hfailure, hbuf⟩ := feedAll_flatten strict level version chunks
    refine ⟨hpackets, hfailure, fun hnone => ⟨hbuf hnone, ?_, feedAll_drained hnone⟩⟩
    exact feedAll_drained (hfailure.trans hnone)
  · exact Traffic.run_accounted ⟨rfl, Nat.le_refl _⟩ calls
  · refine nextParsed_complete ?_ hlevel hlen
    rw [hv]
    rcases hversion with rfl | rfl | rfl <;> decide

/-- Two PINGREQ frames cut across their middles. -/
theorem chunk_invariant_pingreq :
    (feedAll true (withLevel 5 .full) [[0xC0], [0x00, 0xC0], [0x00]]).packets =
        (feedAll true (withLevel 5 .full) [[0xC0, 0x00, 0xC0, 0x00]]).packets ∧
      (feedAll true (withLevel 5 .full) [[0xC0, 0x00, 0xC0, 0x00]]).packets =
        [.full .pingReq5, .full .pingReq5] :=
  ⟨((chunk_invariant true .full 5 (.inr (.inr rfl))).1 [[0xC0], [0x00, 0xC0], [0x00]]).1,
    by decide⟩

/-- Frames that are decoded one by one are handed out in their order, with nothing left behind,
however the stream that they make up is cut into chunks. -/
theorem frames_delivered (strict : Bool) (version : UInt8) (frames chunks : List Bytes)
    (packets : List MqttPacket) (hchunks : chunks.flatten = frames.flatten)
    (h : List.Forall₂ (fun f packet => packetFrameLen strict f = .ok (some f.length) ∧
      MqttPacket.fromBytesWithVersion strict f version = .ok (.packet packet f.length))
      frames packets) :
    let run := feedAll strict (withLevel version .full) chunks
    run.packets = packets.map .full ∧ run.failure = none ∧ run.parser.buffer = [] := by
  have hframes : Drains (frameSplitter strict .full version) frames.flatten (packets.map .full)
      none [] := by
    clear hchunks
    induction h with
    | nil => exact .stop rfl
    | @cons f packet frames packets hf _ ih =>
      obtain ⟨hlen, hdecode⟩ := hf
      have hadmits : admitFirst .full version ((f ++ frames.flatten).headD 0) = .ok () :=
        rejectIf_neg _ (by rintro rfl; cases hdecode)
      have hsplit := frameSplitter_some hadmits (packetFrameLen_append hlen frames.flatten).1
      rw [List.take_left, parseFrame, hdecode] at hsplit
      refine .item hsplit ?_
      rw [List.flatten_cons, List.drop_left]
      exact ih
  obtain ⟨rest, hfeeds, hend⟩ := feedAll_feeds strict .full version chunks (withLevel version .full)
    rfl rfl
  obtain ⟨rest', hdrains, hrest⟩ := hfeeds.drains (frameSplitter_stable strict .full version) rfl
  rw [← hchunks] at hframes
  obtain ⟨hpackets, hfailure, rfl⟩ := hdrains.functional hframes
  exact ⟨hpackets, hfailure, (hend hfailure).1.trans (hrest hfailure).symm⟩

/-- PINGRESP and a CONNACK, in chunks that end inside the frames. -/
theorem frames_delivered_connack :
    (feedAll true (withLevel 4 .full) [[0xD0], [0, 0x20, 2], [0, 0]]).packets =
      [.full .pingResp3, .full (.connAck3 ⟨false, 0⟩)] :=
  (frames_delivered true 4 [[0xD0, 0], [0x20, 2, 0, 0]] _ [.pingResp3, .connAck3 ⟨false, 0⟩] rfl
    (.cons ⟨rfl, rfl⟩ (.cons ⟨rfl, rfl⟩ .nil))).1

end MqttParser

end FlowSdk
