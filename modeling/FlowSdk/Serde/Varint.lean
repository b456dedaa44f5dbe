/-
  FlowSdk.Serde.Varint — the variable byte integer.

  The length before a packet or a property section is written with seven bits a byte, the
  lowest first, and a continuation bit on every byte but the last. The encoder, the length it
  announces and the decoder are three loops. `Scan` says once what the loop of the decoder
  makes of its bytes, and everything about it is read off there.

  Main results:
    1. `decodeLoop_scan`   what the loop answers; its assertion never fails
    2. `Scan.digits`       the bytes of a value, which are those of the encoder if none is too many
    3. `varint_codec`      the two directions of the codec, and input that ends early
-/
import FlowSdk.Serde.BaseData

namespace FlowSdk

open Wire

namespace VariableByteInteger

/-! ## Bytes -/

theorem low_bits {byte : UInt8} (h : ¬ byte > 127) : byte &&& 127 = byte ∧ byte &&& 128 = 0 := by
  have hall : ∀ k < 128, UInt8.ofNat k &&& 127 = UInt8.ofNat k ∧ UInt8.ofNat k &&& 128 = 0 := by
    decide
  have hlt : byte.toNat < 128 := Nat.lt_succ_of_le (UInt8.le_iff_toNat_le.mp (UInt8.not_lt.mp h))
  rw [← UInt8.ofNat_toNat (x := byte)]
  exact hall _ hlt

theorem continued {byte : UInt8} (h : byte > 127) :
    byte &&& 128 ≠ 0 ∧ (byte &&& 127) ||| 128 = byte := by
  have hall : ∀ k < 128, UInt8.ofNat (128 + k) &&& 128 ≠ 0 ∧
      (UInt8.ofNat (128 + k) &&& 127) ||| 128 = UInt8.ofNat (128 + k) := by
    decide
  have hlt := UInt8.lt_iff_toNat_lt.mp h
  have hbound := byte.toNat_lt
  have heq : byte = UInt8.ofNat (128 + (byte.toNat - 128)) := by
    rw [show 128 + (byte.toNat - 128) = byte.toNat from by simp at hlt; omega, UInt8.ofNat_toNat]
  rw [heq]
  exact hall _ (by omega)

theorem toNat_low (byte : UInt8) : (byte &&& 127).toNat ≤ 127 := by
  rw [UInt8.toNat_and]
  exact Nat.and_le_right

/-! ## The loop of the decoder -/

/-- What the loop makes of the bytes from byte `i` on, `value` being read already. -/
inductive Scan : Bytes → Nat → Nat → Decode (Nat × Nat) → Prop
  | short {i value : Nat} :
      Scan [] i value (Decode.fail (.more 1 "vbi: not enough bytes for remaining length"))
  | long {byte : UInt8} {b : Bytes} {value : Nat} : byte > 127 →
      Scan (byte :: b) 3 value (Decode.fail (.parseError "invalid remaining length, MSB is 1"))
  | last {byte : UInt8} {b : Bytes} {i value : Nat} : ¬ byte > 127 →
      Scan (byte :: b) i value (.ok (value + byte.toNat * 128 ^ i, i + 1))
  | more {byte : UInt8} {b : Bytes} {i value : Nat} {r : Decode (Nat × Nat)} : byte > 127 → i < 3 →
      Scan b (i + 1) (value + (byte &&& 127).toNat * 128 ^ i) r → Scan (byte :: b) i value r

theorem decodeLoop_scan : ∀ (b : Bytes) (i value : Nat), i ≤ 3 → value < 128 ^ i →
    Scan b i value (decodeLoop b i (128 ^ i) value)
  | [], _, _, _, _ => .short
  | byte :: b, i, value, hi, hvalue => by
    have hnext : value + (byte &&& 127).toNat * 128 ^ i < 128 ^ (i + 1) := by
      have hmul := Nat.mul_le_mul_right (128 ^ i) (toNat_low byte)
      rw [pow_succ]
      omega
    -- four bytes stay below the assertion
    have hmax : 128 ^ (i + 1) ≤ 128 ^ 4 := Nat.pow_le_pow_right (by decide) (by omega)
    have hcap : ¬ value + (byte &&& 127).toNat * 128 ^ i > 268435455 := by omega
    rw [decodeLoop]
    dsimp only
    by_cases hbyte : byte > 127
    · obtain rfl | hi3 : i = 3 ∨ i < 3 := by omega
      · rw [if_pos ⟨hbyte, rfl⟩]
        exact .long hbyte
      · rw [if_neg (by omega), if_neg hcap, if_neg (continued hbyte).1]
        have hrest := decodeLoop_scan b (i + 1) _ hi3 hnext
        rw [pow_succ] at hrest
        exact .more hbyte hi3 hrest
    · rw [if_neg (fun h => hbyte h.1), if_neg hcap, if_pos (low_bits hbyte).2, (low_bits hbyte).1]
      exact .last hbyte

theorem Scan.unique {b : Bytes} {i value : Nat} {r r' : Decode (Nat × Nat)} (h : Scan b i value r)
    (h' : Scan b i value r') : r = r' := by
  induction h with
  | short =>
    cases h'
    rfl
  | long hbyte =>
    cases h' with
    | long => rfl
    | last hlast => exact absurd hbyte hlast
    | more _ hi => exact absurd hi (Nat.lt_irrefl 3)
  | last hlast =>
    cases h' with
    | long hbyte => exact absurd hbyte hlast
    | last => rfl
    | more hbyte => exact absurd hbyte hlast
  | more hbyte hi _ ih =>
    cases h' with
    | long => exact absurd hi (Nat.lt_irrefl 3)
    | last hlast => exact absurd hbyte hlast
    | more _ _ hrest => exact ih hrest

theorem scan_start (b : Bytes) : Scan b 0 0 (decodeLoop b 0 1 0) :=
  decodeLoop_scan b 0 0 (by decide) (by decide)

/-- The value of the bytes that were read. They are what the encoder writes, unless the last
of several is zero. -/
theorem Scan.digits {b : Bytes} {i value : Nat} {r : Decode (Nat × Nat)} (h : Scan b i value r)
    {v n : Nat} (hi : i ≤ 3) (hr : r = .ok (v, n)) :
    ∃ used rest, b = used ++ rest ∧ i + used.length = n ∧ used ≠ [] ∧ n ≤ 4 ∧
      (∀ c, Scan (used ++ c) i value r) ∧
      ∃ num < 128 ^ used.length, v = value + num * 128 ^ i ∧
        (used.length = 1 ∨ used.getLast? ≠ some 0 →
          ∀ fuel, used.length ≤ fuel → encodeLoop fuel num = used) := by
  induction h with
  | short => cases hr
  | long => cases hr
  | @last byte b i value hlast =>
    cases hr
    have hlt : byte.toNat < 128 :=
      Nat.lt_succ_of_le (UInt8.le_iff_toNat_le.mp (UInt8.not_lt.mp hlast))
    refine ⟨[byte], b, rfl, rfl, List.cons_ne_nil _ _, by omega, fun c => .last hlast,
      byte.toNat, hlt, rfl, fun _ fuel hfuel => ?_⟩
    obtain ⟨fuel, rfl⟩ : ∃ f, fuel = f + 1 := ⟨fuel - 1, by simp at hfuel; omega⟩
    rw [encodeLoop, if_neg (by omega), Nat.mod_eq_of_lt hlt, UInt8.ofNat_toNat]
  | @more byte b i value r hbyte hi3 _ ih =>
    obtain ⟨used, rest, rfl, hlen, hne, hn, hall, num, hnum, hv, hwrites⟩ := ih hi3 hr
    refine ⟨byte :: used, rest, rfl, by rw [List.length_cons]; omega, List.cons_ne_nil _ _, hn,
      fun c => .more hbyte hi3 (hall c), (byte &&& 127).toNat + 128 * num, ?_, ?_, fun hlast => ?_⟩
    · have := toNat_low byte
      rw [List.length_cons, pow_succ]
      omega
    · rw [hv, pow_succ]
      ring
    · have hlast : used.getLast? ≠ some 0 := by
        rcases hlast with hone | hlast
        · exact absurd (List.length_eq_zero_iff.mp (Nat.succ.inj hone)) hne
        · rwa [List.getLast?_cons_of_ne_nil hne] at hlast
      intro fuel hfuel
      have hpos := List.length_pos_iff.mpr hne
      obtain ⟨fuel, rfl⟩ : ∃ f, fuel = f + 1 := ⟨fuel - 1, by simp at hfuel; omega⟩
      have hrest := hwrites (.inr hlast) fuel (by simpa using hfuel)
      -- a zero above the lowest digits would have been written as a zero byte
      have hzero : num ≠ 0 := by
        rintro rfl
        obtain ⟨fuel, rfl⟩ : ∃ f, fuel = f + 1 := ⟨fuel - 1, by simp at hfuel; omega⟩
        exact hlast (by rw [← hrest]; rfl)
      have hlow := toNat_low byte
      have hdiv : ((byte &&& 127).toNat + 128 * num) / 128 = num := by omega
      have hmod : ((byte &&& 127).toNat + 128 * num) % 128 = (byte &&& 127).toNat := by omega
      rw [encodeLoop, hdiv, hmod, if_pos (Nat.pos_of_ne_zero hzero), hrest, UInt8.ofNat_toNat,
        (continued hbyte).2]

/-- What the encoder writes is read back. -/
theorem scan_encodeLoop (rest : Bytes) : ∀ (k fuel i num value : Nat), k + i = 3 → k < fuel →
    num < 128 ^ (k + 1) → Scan (encodeLoop fuel num ++ rest) i value
      (.ok (value + num * 128 ^ i, i + (encodeLoop fuel num).length))
  | k, 0, _, _, _, _, hfuel, _ => absurd hfuel (Nat.not_lt_zero k)
  | k, fuel + 1, i, num, value, hi, hfuel, hnum => by
    have hlow : num % 128 < 128 := Nat.mod_lt _ (by decide)
    rw [encodeLoop]
    by_cases hdiv : num / 128 > 0
    · obtain ⟨k, rfl⟩ : ∃ k', k = k' + 1 := by
        cases k with
        | zero => omega
        | succ k => exact ⟨k, rfl⟩
      have hrest : num / 128 < 128 ^ (k + 1) := by
        apply Nat.div_lt_of_lt_mul
        rw [pow_succ] at hnum
        omega
      obtain ⟨hbyte, hvalue, -⟩ := more_byte hlow
      have hscan := scan_encodeLoop rest k fuel (i + 1) (num / 128)
        (value + num % 128 * 128 ^ i) (by omega) (by omega) hrest
      have hsum : value + num % 128 * 128 ^ i + num / 128 * 128 ^ (i + 1) = value + num * 128 ^ i := by
        have hnum : num = num % 128 + 128 * (num / 128) := by omega
        conv_rhs => rw [hnum]
        ring
      rw [if_pos hdiv, List.length_cons, ← Nat.add_assoc, Nat.add_right_comm]
      refine .more hbyte (by omega) ?_
      rw [hvalue, ← hsum]
      exact hscan
    · obtain ⟨hbyte, hvalue, -⟩ := last_byte hlow
      have hmod : num % 128 = num := Nat.mod_eq_of_lt (by omega)
      have htoNat : (UInt8.ofNat num).toNat = num := by
        rw [UInt8.toNat_ofNat', Nat.mod_eq_of_lt (by omega)]
      rw [if_neg hdiv, hmod]
      rw [hmod] at hbyte
      have hscan : Scan (UInt8.ofNat num :: rest) i value (.ok (_, i + 1)) := .last hbyte
      rwa [htoNat] at hscan

/-- The loop asks for more bytes, or refuses these whatever follows them. -/
theorem Scan.fails {b : Bytes} {i value : Nat} {r : Decode (Nat × Nat)} (h : Scan b i value r)
    {e : Failure} (hi : i ≤ 3) (hr : r = .error e) :
    ((∃ n msg, e = .err (.more n msg)) ∧ b.length + i ≤ 3 ∧ ∀ byte ∈ b, byte > 127) ∨
      (∃ msg, e = .err (.parseError msg)) ∧ ∀ c, Scan (b ++ c) i value r := by
  induction h with
  | short =>
    cases hr
    exact .inl ⟨⟨_, _, rfl⟩, by simpa using hi, nofun⟩
  | long hbyte =>
    cases hr
    exact .inr ⟨⟨_, rfl⟩, fun c => .long hbyte⟩
  | last => cases hr
  | more hbyte hi3 _ ih =>
    rcases ih hi3 hr with ⟨hmore, hlen, hall⟩ | ⟨herr, hall⟩
    · refine .inl ⟨hmore, by rw [List.length_cons]; omega, fun byte hmem => ?_⟩
      rcases List.mem_cons.mp hmem with rfl | hmem
      · exact hbyte
      · exact hall byte hmem
    · exact .inr ⟨herr, fun c => .more hbyte hi3 (hall c)⟩

/-- Three bytes that continue can be followed by a last one. -/
theorem scan_completed : ∀ (b : Bytes) (i value : Nat), b.length + i ≤ 3 → (∀ byte ∈ b, byte > 127) →
    ∃ v, Scan (b ++ [1]) i value (.ok (v, i + (b.length + 1)))
  | [], _, _, _, _ => ⟨_, .last (by decide)⟩
  | byte :: b, i, value, hlen, hall => by
    rw [List.length_cons] at hlen
    obtain ⟨v, hscan⟩ := scan_completed b (i + 1) (value + (byte &&& 127).toNat * 128 ^ i) (by omega)
      fun c hc => hall c (List.mem_cons_of_mem _ hc)
    rw [Nat.add_right_comm, Nat.add_assoc] at hscan
    exact ⟨v, .more (hall byte List.mem_cons_self) (by omega) hscan⟩

/-! ## The encoder -/

theorem encodeLoop_ne_nil (fuel num : Nat) : encodeLoop (fuel + 1) num ≠ [] := by
  unfold encodeLoop
  split <;> simp

theorem encode_ne_nil (val : UInt32) : encode val ≠ [] := encodeLoop_ne_nil 4 _

theorem encode_length_pos (val : UInt32) : 0 < (encode val).length :=
  List.length_pos_iff.mpr (encode_ne_nil val)

/-- The last byte holds the highest digits, which are not zero. -/
theorem encodeLoop_getLast : ∀ (fuel num : Nat), 0 < num → num < 128 ^ fuel →
    (encodeLoop fuel num).getLast? ≠ some 0
  | 0, num, hpos, hnum => by
    rw [pow_zero] at hnum
    omega
  | fuel + 1, num, hpos, hnum => by
    rw [encodeLoop]
    by_cases hdiv : num / 128 > 0
    · have hrest : num / 128 < 128 ^ fuel := by
        apply Nat.div_lt_of_lt_mul
        rw [pow_succ] at hnum
        omega
      have hne : encodeLoop fuel (num / 128) ≠ [] := by
        cases fuel with
        | zero =>
          rw [pow_zero] at hrest
          omega
        | succ fuel => exact encodeLoop_ne_nil fuel _
      rw [if_pos hdiv, List.getLast?_cons_of_ne_nil hne]
      exact encodeLoop_getLast fuel _ hdiv hrest
    · rw [if_neg hdiv, List.getLast?_singleton]
      intro hzero
      have := congrArg UInt8.toNat (Option.some.inj hzero)
      rw [UInt8.toNat_ofNat', UInt8.toNat_zero] at this
      omega

theorem encodeLoop_length_le :
    ∀ (fuel num k : Nat), num < 128 ^ (k + 1) → (encodeLoop fuel num).length ≤ k + 1
  | 0, _, _, _ => Nat.zero_le _
  | fuel + 1, num, k, h => by
    unfold encodeLoop
    dsimp only
    split
    next hmore =>
      cases k with
      | zero =>
        rw [Nat.zero_add, pow_one] at h
        omega
      | succ k =>
        have hrest : num / 128 < 128 ^ (k + 1) := by
          apply Nat.div_lt_of_lt_mul
          rw [pow_succ] at h
          omega
        rw [List.length_cons]
        exact Nat.succ_le_succ (encodeLoop_length_le fuel _ k hrest)
    next => exact Nat.le_add_left _ _

/-- The writer takes no more bytes than any reader has needed. -/
theorem encode_length_le {v n : Nat} (hv : v < 128 ^ n) (hn : 0 < n) :
    (encode (UInt32.ofNat v)).length ≤ n := by
  obtain ⟨k, rfl⟩ : ∃ k, n = k + 1 := ⟨n - 1, by omega⟩
  refine encodeLoop_length_le 5 _ k (Nat.lt_of_le_of_lt ?_ hv)
  rw [UInt32.toNat_ofNat']
  exact Nat.mod_le _ _

theorem encodedLenLoop_eq (fuel : Nat) :
    ∀ val : Nat, val < 128 ^ (fuel + 1) →
      encodedLenLoop fuel val = (encodeLoop (fuel + 1) val).length := by
  induction fuel with
  | zero =>
    intro val h
    have hdiv : ¬ val / 128 > 0 := by omega
    simp [encodedLenLoop, encodeLoop, hdiv]
  | succ fuel ih =>
    intro val h
    have hrest : val / 128 < 128 ^ (fuel + 1) := by
      apply Nat.div_lt_of_lt_mul
      rw [pow_succ] at h
      omega
    rw [encodedLenLoop, encodeLoop]
    by_cases hge : val ≥ 128
    · rw [if_pos hge, if_pos (by omega), ih _ hrest, List.length_cons]
    · rw [if_neg hge, if_neg (by omega), List.length_singleton]

/-- The announced length is the written one, for every `u32`. -/
theorem encodedLen_eq (val : UInt32) : encodedLen val = (encode val).length := by
  have hlt : val.toNat < 4294967296 := val.toNat_lt
  exact encodedLenLoop_eq 4 val.toNat (by omega)

/-! ## The decoder -/

variable {strict : Bool} {b : Bytes} {v n : Nat}

/-- The check of the strict build looks at the last byte that was read. -/
theorem decode_of_scan {used c : Bytes} (hne : used ≠ [])
    (h : Scan (used ++ c) 0 0 (.ok (v, used.length)))
    (hlast : strict = true → used.length = 1 ∨ used.getLast? ≠ some 0) :
    decode strict (used ++ c) = .ok (v, used.length) := by
  have hempty : ¬ (used ++ c).isEmpty := by simp [hne]
  have hpos := List.length_pos_iff.mpr hne
  rw [decode, if_neg hempty, (scan_start (used ++ c)).unique h, ok_bind]
  dsimp only
  rw [List.getElem?_append_left (by omega), ← List.getLast?_eq_getElem?, if_neg]
  · rfl
  · intro hcheck
    simp only [Bool.and_eq_true, decide_eq_true_eq, beq_iff_eq] at hcheck
    rcases hlast hcheck.1.1 with hone | hlast
    · omega
    · exact hlast hcheck.2

/-- Every value of at most four bytes is read back, whatever follows it. -/
theorem reads (strict : Bool) {v : UInt32} (h : v.toNat ≤ maxValue) :
    Reads (decode strict) (encode v) v.toNat := by
  intro rest
  unfold maxValue at h
  have hscan := scan_encodeLoop rest 3 5 0 v.toNat 0 rfl (by decide) (by omega)
  rw [pow_zero, mul_one, Nat.zero_add, Nat.zero_add] at hscan
  refine decode_of_scan (encode_ne_nil v) hscan fun _ => ?_
  rcases Nat.eq_zero_or_pos v.toNat with hzero | hpos
  · left
    rw [encode, hzero]
    rfl
  · exact .inr (encodeLoop_getLast 5 v.toNat hpos (by omega))

/-- The bytes of a value that was read: they are read whatever follows them, and in the strict
build they are those of the encoder. -/
theorem decode_used (h : decode strict b = .ok (v, n)) :
    ∃ used rest, b = used ++ rest ∧ used.length = n ∧ used ≠ [] ∧
      (∀ c, decode strict (used ++ c) = .ok (v, n)) ∧ v < 128 ^ n ∧ n ≤ 4 ∧
      (strict = true → encode (UInt32.ofNat v) = used) := by
  unfold decode at h
  split at h
  next => cases h
  next =>
    obtain ⟨⟨v', n'⟩, hloop, h⟩ := bind_eq_ok.mp h
    dsimp only at h
    split at h
    next => cases h
    next hmin =>
      cases h
      obtain ⟨used, rest, rfl, hlen, hne, hn, hall, num, hnum, hv, hwrites⟩ :=
        (scan_start b).digits (by decide) hloop
      rw [Nat.zero_add] at hlen
      rw [Nat.zero_add, pow_zero, mul_one] at hv
      subst hlen hv
      have hpos := List.length_pos_iff.mpr hne
      have hlast : strict = true → used.length = 1 ∨ used.getLast? ≠ some 0 := by
        rintro rfl
        by_contra hboth
        push Not at hboth
        rw [List.getElem?_append_left (by omega), ← List.getLast?_eq_getElem?, hboth.2] at hmin
        exact hmin (by simp; omega)
      refine ⟨used, rest, rfl, rfl, hne, fun c => decode_of_scan hne (hloop ▸ hall c) hlast, hnum, hn,
        fun hstrict => ?_⟩
      have hpow : 128 ^ used.length ≤ 128 ^ 4 := Nat.pow_le_pow_right (by decide) hn
      rw [encode, UInt32.toNat_ofNat', Nat.mod_eq_of_lt (by omega)]
      exact hwrites (hlast hstrict) 5 (by omega)

theorem decode_bound (h : decode strict b = .ok (v, n)) : v < 128 ^ n ∧ 0 < n ∧ v ≤ maxValue := by
  obtain ⟨used, -, -, rfl, hne, -, hv, hn, -⟩ := decode_used h
  have hpow : 128 ^ used.length ≤ 128 ^ 4 := Nat.pow_le_pow_right (by decide) hn
  unfold maxValue
  exact ⟨hv, List.length_pos_iff.mpr hne, by omega⟩

/-- Why bytes are refused. -/
theorem decode_fails {e : Failure} (hb : b ≠ []) (h : decode strict b = .error e) :
    ((∃ k msg, e = .err (.more k msg)) ∧ b.length ≤ 3 ∧ ∀ byte ∈ b, byte > 127) ∨
      (∃ msg, e = .err (.parseError msg)) ∧ ∀ c, decode strict (b ++ c) = .error e := by
  have hempty : ∀ c : Bytes, ¬ (b ++ c).isEmpty := fun c => by simp [hb]
  rw [decode, if_neg (by simpa using hempty [])] at h
  cases hloop : decodeLoop b 0 1 0 with
  | error error =>
    rw [hloop, error_bind] at h
    cases h
    refine ((scan_start b).fails (by decide) hloop).imp_right fun ⟨herr, hall⟩ => ⟨herr, fun c => ?_⟩
    rw [decode, if_neg (hempty c), (scan_start (b ++ c)).unique (hall c), hloop, error_bind]
  | ok r =>
    obtain ⟨v, n⟩ := r
    obtain ⟨used, rest, rfl, hlen, hne, -, hall, -⟩ := (scan_start b).digits (by decide) hloop
    have hpos := List.length_pos_iff.mpr hne
    rw [hloop, ok_bind] at h
    dsimp only at h
    split at h
    next hmin =>
      cases h
      refine .inr ⟨⟨_, rfl⟩, fun c => ?_⟩
      have hscan := hall (rest ++ c)
      rw [hloop, ← List.append_assoc] at hscan
      rw [decode, if_neg (hempty c), (scan_start _).unique hscan, ok_bind]
      dsimp only
      rw [List.getElem?_append_left (by rw [List.length_append]; omega), if_pos hmin]
      rfl
    next => cases h

/-- The codec of the strict build: what is written is read, what is read was written so, and
only the beginning of a value asks for more. -/
theorem varint_codec :
    (∀ (v : UInt32) (r : Bytes), v.toNat ≤ 268435455 →
      decode true (encode v ++ r) = .ok (v.toNat, encodedLen v) ∧
        encodedLen v = (encode v).length ∧ 1 ≤ encodedLen v ∧ encodedLen v ≤ 4) ∧
    (∀ (b : Bytes) (v n : Nat), decode true b = .ok (v, n) →
      n ≤ b.length ∧ v ≤ 268435455 ∧ b.take n = encode (UInt32.ofNat v)) ∧
    (∀ (b : Bytes) (p : Panic), decode true b ≠ .error (.panic p)) ∧
    ∀ (b : Bytes) (hint : Nat) (msg : String), decode true b = .error (.err (.more hint msg)) →
      ∃ v : UInt32, v.toNat ≤ 268435455 ∧ ∃ rest, rest ≠ [] ∧ encode v = b ++ rest := by
  refine ⟨fun v r hv => ?_, fun b v n h => ?_, fun b p h => ?_, fun b hint msg h => ?_⟩
  · rw [encodedLen_eq]
    refine ⟨reads true hv r, rfl, encode_length_pos v, ?_⟩
    exact encodeLoop_length_le 5 v.toNat 3 (by omega)
  · obtain ⟨used, rest, rfl, rfl, -, -, -, -, hused⟩ := decode_used h
    rw [List.take_left, hused rfl]
    exact ⟨by rw [List.length_append]; omega, (decode_bound h).2.2, rfl⟩
  · cases b with
    | nil => cases h
    | cons byte b =>
      rcases decode_fails (List.cons_ne_nil _ _) h with ⟨⟨_, _, hmore⟩, -⟩ | ⟨⟨_, herr⟩, -⟩
      · cases hmore
      · cases herr
  · cases b with
    | nil => cases h
    | cons byte b =>
      rcases decode_fails (List.cons_ne_nil _ _) h with ⟨-, hlen, hall⟩ | ⟨⟨_, herr⟩, -⟩
      · -- a last byte of one completes the encoding
        obtain ⟨v, hscan⟩ := scan_completed (byte :: b) 0 0 hlen hall
        have hread : decode true (byte :: b ++ [1] ++ []) = .ok (v, (byte :: b ++ [1]).length) := by
          refine decode_of_scan (by simp) ?_ fun _ => .inr (by rw [List.getLast?_concat]; decide)
          rw [Nat.zero_add] at hscan
          rwa [List.append_nil, List.length_append]
        obtain ⟨used, rest, heq, hused, -, -, -, -, hwritten⟩ := decode_used hread
        have hbound := (decode_bound hread).2.2
        unfold maxValue at hbound
        rw [List.append_nil] at heq
        obtain rfl : rest = [] := by
          rw [heq, List.length_append] at hused
          exact List.eq_nil_of_length_eq_zero (by omega)
        rw [List.append_nil] at heq
        refine ⟨UInt32.ofNat v, ?_, [1], List.cons_ne_nil _ _, by rw [hwritten rfl, heq]⟩
        rw [UInt32.toNat_ofNat', Nat.mod_eq_of_lt (by omega)]
        exact hbound
      · cases herr

end VariableByteInteger

end FlowSdk
