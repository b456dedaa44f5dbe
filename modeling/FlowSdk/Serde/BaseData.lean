/-
  FlowSdk.Serde.BaseData — the primitive wire formats of MQTT.

  Two and four byte integers, the variable byte integer, binary data and UTF-8
  strings, with the errors the decoders can answer. A Rust panic (a slice out of
  range, an unsigned subtraction below zero, a failed assertion) is an outcome of
  its own, so that it cannot be confused with a rejected packet.

  The flag `strict` is the `strict-protocol-compliance` feature of the build.

  Main results:
    1. `TwoByteInteger.reads`
    2. `Utf8String.reads`, `BinaryData.reads`
-/
import FlowSdk.Wire.Reader
import Mathlib.Tactic.Ring

namespace FlowSdk

open Wire

abbrev Bytes := List UInt8

/-! ## Errors -/

/-- Why a packet was rejected. The payload of the two UTF-8 errors is the standard
library's own and is not kept. -/
inductive ParseError where
  | more (hint : Nat) (msg : String)
  | parseError (msg : String)
  | incompleteProperty
  | utf8Error
  | fromUtf8Error
  | stringTooLong
  | bufferTooShort
  | bufferEmpty
  | invalidLength
  | invalidPropertyId
  | invalidPacketType
  | unSuppProtoVsn
  | internalError (msg : String)
  | invalidVariableByteInteger
deriving DecidableEq, Repr

/-- `impl Display for ParseError`. -/
def ParseError.toText : ParseError → String
  | .more hint msg => s!"More data needed ({hint} bytes): {msg}"
  | .parseError msg => s!"Parse Error: {msg}"
  | .incompleteProperty => "Incomplete Property"
  | .utf8Error => "UTF-8 Error"
  | .fromUtf8Error => "From UTF-8 Error"
  | .stringTooLong => "String Too Long"
  | .bufferTooShort => "Buffer Too Short"
  | .bufferEmpty => "Buffer is Empty"
  | .invalidLength => "Invalid Length"
  | .invalidPropertyId => "Invalid Property ID"
  | .invalidPacketType => "Invalid Packet Type"
  | .unSuppProtoVsn => "Unsupported Protocol Version"
  | .internalError msg => s!"Internal Error: {msg}"
  | .invalidVariableByteInteger => "Invalid Variable Byte Integer"

/-- The ways a decoder can panic. -/
inductive Panic where
  | slice
  | underflow
  | assertion
  | unreachable
deriving DecidableEq, Repr

/-- A decoder that does not answer: an error of the source, or a panic. -/
inductive Failure where
  | err (e : ParseError)
  | panic (p : Panic)
deriving DecidableEq, Repr

abbrev Decode (α : Type) := Except Failure α

namespace Decode

/-- `Err(e)`. -/
def fail {α : Type} (e : ParseError) : Decode α := .error (.err e)

/-- A panic at this point of the source. -/
def panic {α : Type} (p : Panic) : Decode α := .error (.panic p)

/-- A check that cannot panic, used inside a decoder. -/
def check {α : Type} : Except ParseError α → Decode α
  | .ok a => .ok a
  | .error e => .error (.err e)

/-- `option.ok_or(e)?`. -/
def okOr {α : Type} (e : ParseError) : Option α → Decode α
  | some a => .ok a
  | none => .error (.err e)

/-- The indexing forms `buffer[n..]` and `buffer[i]`, which panic out of range. -/
def index {α : Type} : Option α → Decode α
  | some a => .ok a
  | none => .error (.panic .slice)

@[simp] theorem check_ok {α : Type} (a : α) : check (.ok a) = .ok a := rfl
@[simp] theorem check_error {α : Type} (e : ParseError) :
    check (.error e : Except ParseError α) = .error (.err e) := rfl
@[simp] theorem okOr_some {α : Type} (e : ParseError) (a : α) : okOr e (some a) = .ok a := rfl
@[simp] theorem okOr_none {α : Type} (e : ParseError) :
    okOr e (none : Option α) = .error (.err e) := rfl
@[simp] theorem index_some {α : Type} (a : α) : index (some a) = .ok a := rfl
@[simp] theorem index_none {α : Type} : index (none : Option α) = .error (.panic .slice) := rfl

end Decode

/-! ## Two and four byte integers -/

def TwoByteInteger.encode (val : UInt16) : Bytes :=
  [UInt8.ofNat (val.toNat / 256), val.toUInt8]

/-- `u16::from_be_bytes`. -/
def u16FromBeBytes (a b : UInt8) : UInt16 := UInt16.ofNat (a.toNat * 256 + b.toNat)

def TwoByteInteger.decode : Bytes → Decode (UInt16 × Nat)
  | a :: b :: _ => .ok (u16FromBeBytes a b, 2)
  | _ => Decode.fail .bufferTooShort

def FourByteInteger.encode (val : UInt32) : Bytes :=
  [UInt8.ofNat (val.toNat / 16777216), UInt8.ofNat (val.toNat / 65536),
    UInt8.ofNat (val.toNat / 256), val.toUInt8]

/-- `u32::from_be_bytes`. -/
def u32FromBeBytes (a b c d : UInt8) : UInt32 :=
  UInt32.ofNat (a.toNat * 16777216 + b.toNat * 65536 + c.toNat * 256 + d.toNat)

def FourByteInteger.decode : Bytes → Decode (UInt32 × Nat)
  | a :: b :: c :: d :: _ => .ok (u32FromBeBytes a b c d, 4)
  | _ => Decode.fail .bufferTooShort

@[simp] theorem TwoByteInteger.encode_length (val : UInt16) : (encode val).length = 2 := rfl

@[simp] theorem FourByteInteger.encode_length (val : UInt32) : (encode val).length = 4 := rfl

theorem u16FromBeBytes_encode (val : UInt16) :
    u16FromBeBytes (UInt8.ofNat (val.toNat / 256)) val.toUInt8 = val := by
  have hlt : val.toNat < 65536 := val.toNat_lt
  apply UInt16.toNat_inj.mp
  simp only [u16FromBeBytes, UInt16.toNat_ofNat', UInt8.toNat_ofNat', UInt16.toNat_toUInt8]
  omega

theorem u32FromBeBytes_encode (val : UInt32) :
    u32FromBeBytes (UInt8.ofNat (val.toNat / 16777216)) (UInt8.ofNat (val.toNat / 65536))
      (UInt8.ofNat (val.toNat / 256)) val.toUInt8 = val := by
  have hlt : val.toNat < 4294967296 := val.toNat_lt
  apply UInt32.toNat_inj.mp
  simp only [u32FromBeBytes, UInt32.toNat_ofNat', UInt8.toNat_ofNat', UInt32.toNat_toUInt8]
  omega

theorem TwoByteInteger.reads (val : UInt16) : Reads decode (encode val) val := by
  intro rest
  simp [encode, decode, u16FromBeBytes_encode]

/-! ## Variable byte integer -/

namespace VariableByteInteger

/-- The `while` of `encoded_len`. A `u32` needs at most five bytes, so the fuel of the
callers below is never used up. -/
def encodedLenLoop : Nat → Nat → Nat
  | 0, _ => 1
  | fuel + 1, val => if val ≥ 128 then encodedLenLoop fuel (val / 128) + 1 else 1

def encodedLen (val : UInt32) : Nat := encodedLenLoop 4 val.toNat

/-- The `loop` of `encode_into`. -/
def encodeLoop : Nat → Nat → Bytes
  | 0, _ => []
  | fuel + 1, num =>
    let byte := UInt8.ofNat (num % 128)
    if num / 128 > 0 then (byte ||| 128) :: encodeLoop fuel (num / 128) else [byte]

def encode (val : UInt32) : Bytes := encodeLoop 5 val.toNat

/-- The `loop` of `decode` from byte `i` on, `buffer` being what is left of the slice. -/
def decodeLoop : Bytes → Nat → Nat → Nat → Decode (Nat × Nat)
  | [], _, _, _ => Decode.fail (.more 1 "vbi: not enough bytes for remaining length")
  | byte :: buffer, i, multiplier, value =>
    if byte > 127 ∧ i = 3 then
      Decode.fail (.parseError "invalid remaining length, MSB is 1")
    else
      let value := value + (byte &&& 127).toNat * multiplier
      if value > 268435455 then Decode.panic .assertion
      else if byte &&& 128 = 0 then .ok (value, i + 1)
      else decodeLoop buffer (i + 1) (multiplier * 128) value

def decode (strict : Bool) (buffer : Bytes) : Decode (Nat × Nat) :=
  if buffer.isEmpty then Decode.fail .bufferTooShort
  else do
    let (value, i) ← decodeLoop buffer 0 1 0
    -- a last byte of zero is the only way to write a value with too many bytes
    if strict && i > 1 && buffer[i - 1]? == some 0 then
      Decode.fail (.parseError "Variable Byte Integer encoding is not minimal")
    else return (value, i)

/-- The largest value of four bytes, the limit of the remaining length. -/
def maxValue : Nat := 268435455

theorem last_byte {k : Nat} (hk : k < 128) :
    ¬ (UInt8.ofNat k > 127) ∧ (UInt8.ofNat k &&& 127).toNat = k ∧ UInt8.ofNat k &&& 128 = 0 := by
  revert k
  decide

theorem more_byte {k : Nat} (hk : k < 128) :
    UInt8.ofNat k ||| 128 > 127 ∧ ((UInt8.ofNat k ||| 128) &&& 127).toNat = k ∧
      (UInt8.ofNat k ||| 128) &&& 128 ≠ 0 := by
  revert k
  decide

end VariableByteInteger

/-! ## Binary data and strings -/

/-- `u16::MAX` as a length. -/
def u16Max : Nat := 65535

def BinaryData.encode (data : Bytes) : Bytes :=
  TwoByteInteger.encode (UInt16.ofNat data.length) ++ data

def BinaryData.decode (bytes : Bytes) : Decode (Bytes × Nat) := do
  let (len, _) ← TwoByteInteger.decode bytes
  let start := 2
  let stop := start + len.toNat
  rejectIf (bytes.length < stop) (.err .bufferTooShort)
  return ((bytes.take stop).drop start, stop)

/-- `str::as_bytes`. -/
def strBytes (s : String) : Bytes := s.toUTF8.data.toList

/-- `str::len`, the length in bytes. -/
def strLen (s : String) : Nat := (strBytes s).length

/-- `String::from_utf8`. -/
def stringFromUtf8 (data : Bytes) : Option String := String.fromUTF8? ⟨data.toArray⟩

def validateMqttUtf8String (s : String) : Except ParseError Unit :=
  if '\x00' ∈ s.toList then
    .error (.parseError "UTF-8 string contains null character (U+0000)")
  else .ok ()

def Utf8String.encode (s : String) : Bytes := BinaryData.encode (strBytes s)

def Utf8String.decode (strict : Bool) (bytes : Bytes) : Decode (String × Nat) := do
  let (data, len) ← BinaryData.decode bytes
  let s ← Decode.okOr .utf8Error (stringFromUtf8 data)
  onlyIf strict (Decode.check (validateMqttUtf8String s))
  return (s, len)

def encodeBinaryData (data : Bytes) : Except ParseError Bytes :=
  if data.length > u16Max then .error .stringTooLong else .ok (BinaryData.encode data)

def encodeUtf8String (strict : Bool) (s : String) : Except ParseError Bytes := do
  rejectIf (strLen s > u16Max) .stringTooLong
  onlyIf strict (validateMqttUtf8String s)
  return Utf8String.encode s

@[simp] theorem BinaryData.encode_length (data : Bytes) :
    (encode data).length = 2 + data.length := by
  simp [encode]

@[simp] theorem Utf8String.encode_length (s : String) : (encode s).length = 2 + strLen s := by
  simp [encode, strLen]

theorem stringFromUtf8_strBytes (s : String) : stringFromUtf8 (strBytes s) = some s := by
  have hvalid : s.toUTF8.IsValidUTF8 := s.isValidUTF8
  have harr : (⟨(strBytes s).toArray⟩ : ByteArray) = s.toUTF8 := by
    simp [strBytes]
  unfold stringFromUtf8 String.fromUTF8?
  rw [harr, dif_pos hvalid]
  rfl

theorem BinaryData.reads {data : Bytes} (h : data.length ≤ u16Max) :
    Reads decode (encode data) data := by
  intro rest
  have hmod : data.length % 65536 = data.length := Nat.mod_eq_of_lt (by unfold u16Max at h; omega)
  have hint := TwoByteInteger.reads (UInt16.ofNat data.length) (data ++ rest)
  unfold decode
  simp only [encode, List.append_assoc, hint, ok_bind]
  simp [TwoByteInteger.encode, UInt16.toNat_ofNat', hmod, Nat.add_comm 2]

theorem Utf8String.reads (strict : Bool) {s : String} (hlen : strLen s ≤ u16Max)
    (hvalid : strict = true → validateMqttUtf8String s = .ok ()) :
    Reads (decode strict) (encode s) s := by
  intro rest
  have hbin := BinaryData.reads hlen rest
  unfold decode
  simp only [encode, hbin, ok_bind, stringFromUtf8_strBytes, Decode.okOr_some]
  cases strict with
  | false => rfl
  | true => simp [hvalid rfl]

/-- What a string that passed the encoder's own check satisfies. -/
theorem encodeUtf8String_ok {strict : Bool} {s : String} {b : Bytes}
    (h : encodeUtf8String strict s = .ok b) :
    strLen s ≤ u16Max ∧ (strict = true → validateMqttUtf8String s = .ok ()) ∧
      b = Utf8String.encode s := by
  simp only [encodeUtf8String, check_bind_eq_ok, rejectIf_eq_ok, onlyIf_eq_ok, pure_eq_ok,
    Except.ok.injEq] at h
  exact ⟨by omega, h.2.1, h.2.2.symm⟩

/-! ## Shared parser helpers -/

def packetType (buffer : Bytes) : Decode UInt8 :=
  match buffer with
  | [] => Decode.fail .bufferEmpty
  | byte :: _ => .ok (byte >>> 4)

def parseRemainingLength (strict : Bool) (buffer : Bytes) : Decode (Nat × Nat) :=
  VariableByteInteger.decode strict buffer

def parseUtf8String (strict : Bool) (buffer : Bytes) : Decode (String × Nat) :=
  Utf8String.decode strict buffer

def parsePacketId (buffer : Bytes) : Decode (UInt16 × Nat) := TwoByteInteger.decode buffer

def parseBinaryData (buffer : Bytes) : Decode (Bytes × Nat) := BinaryData.decode buffer

def parseVbi (strict : Bool) (buffer : Bytes) : Decode (Nat × Nat) :=
  VariableByteInteger.decode strict buffer

end FlowSdk
