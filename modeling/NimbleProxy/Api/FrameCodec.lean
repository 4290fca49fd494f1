/-
# Api.FrameCodec -- plaintext frames: indicator, two varints, payload

The functions of `frame_codec.cpp`. Machine words are `UInt32`; lengths and
offsets (`size_t`) are numbers, with the one subtraction that could wrap written
out (`prependHeader`). A `uint8_t *` to a buffer is a `Memory`; what a function
stores there is part of its result. `ReadFn` is a `Source`.

* `readExact_spec`, `readVarintStreaming_spec`: what the two reading loops make
  of the bytes to come, for every way to split them.
* `encodeVarint_eq`, `varintLen_eq`: the word loops are the varints of
  `Theory.Varint`.
* `prependHeader_load`: the frame that ends up in the staging buffer.
-/
import NimbleProxy.Theory.Varint
import NimbleProxy.Theory.Bytes
import Mathlib.Tactic.Linarith

namespace NimbleProxy.Api.FrameCodec

open NimbleProxy.Theory

set_option autoImplicit false

/-- `frame_codec::Error`. -/
inductive Error
  | ok | eof | socketError | badIndicator | varintTooLong | messageTooLarge
  deriving DecidableEq, Repr

/-- `MAX_HEADER_LEN`: indicator, three bytes of size, two of type. -/
def maxHeaderLen : Nat := 6

/-! ## Writing -/

theorem shiftRight_seven (v : UInt32) : (v >>> 7).toNat = v.toNat / 128 := by
  rw [UInt32.toNat_shiftRight]
  simp [Nat.shiftRight_eq_div_pow]

theorem shiftRight_lt {v : UInt32} (big : 0x80 ≤ v) : (v >>> 7).toNat < v.toNat := by
  have atLeast : 128 ≤ v.toNat := big
  rw [shiftRight_seven]
  omega

/-- `encode_varint`: the bytes it writes at `out`. -/
def encodeVarint (value : UInt32) : List UInt8 :=
  if 0x80 ≤ value then (value ||| 0x80).toUInt8 :: encodeVarint (value >>> 7)
  else [value.toUInt8]
termination_by value.toNat
decreasing_by exact shiftRight_lt (by assumption)

/-- `varint_len`. -/
def varintLen (v : UInt32) : Nat :=
  if 0x80 ≤ v then varintLen (v >>> 7) + 1 else 1
termination_by v.toNat
decreasing_by exact shiftRight_lt (by assumption)

/-- `prepend_header`: the start offset and the buffer it leaves. -/
def prependHeader (buf : Memory) (msgType : UInt16) (payloadLen : Nat) : Nat × Memory :=
  let sizeVl := varintLen (UInt32.ofNat payloadLen)
  let typeVl := varintLen msgType.toUInt32
  let headerLen := 1 + sizeVl + typeVl
  -- `size_t` has 32 bits; the difference wraps if the header does not fit
  let start := (maxHeaderLen + 2 ^ 32 - headerLen) % 2 ^ 32
  let buf := buf.store start [0x00]
  let buf := buf.store (start + 1) (encodeVarint (UInt32.ofNat payloadLen))
  let buf := buf.store (start + 1 + sizeVl) (encodeVarint msgType.toUInt32)
  (start, buf)

/-- A message: its type and its encoded payload. -/
structure Message where
  type : UInt16
  payload : List UInt8
  deriving DecidableEq

/-- The bytes a sender ships: the payload is put behind the room for the header in the
staging buffer, `prepend_header` fills the header in, and the frame is sent from its start. -/
def frame (staging : Memory) (m : Message) : List UInt8 :=
  let (start, buf) := prependHeader (staging.store maxHeaderLen m.payload) m.type m.payload.length
  buf.load start (maxHeaderLen - start + m.payload.length)

/-! ## Reading -/

/-- What `read_exact` makes of the end of a stream. -/
def ofEnding : Ending → Error
  | .eof => .eof
  | .error => .socketError

/-- `read_exact`: the result, the bytes stored in `buf`, and the source. -/
def readExact (src : Source) (n : Nat) : Error × List UInt8 × Source :=
  if n = 0 then (.ok, [], src)
  else
    match src.recv n with
    | (.ended ending, src) => (ofEnding ending, [], src)
    | (.data first more, src) =>
        let (e, got, src) := readExact src (n - (more.length + 1))
        (e, first :: more ++ got, src)
termination_by n

/-- The loop of `read_varint_streaming`, with `n` bytes of its budget left. -/
def readVarintLoop : Nat → Source → Nat → UInt32 → Except Error UInt32 × Source
  | 0, src, _, _ => (.error .varintTooLong, src)
  | n + 1, src, shift, v =>
      match readExact src 1 with
      | (.ok, got, src) =>
          let b := got.headD 0
          let v := v ||| ((b &&& 0x7f).toUInt32 <<< UInt32.ofNat shift)
          if b &&& 0x80 = 0 then (.ok v, src)
          else if 32 ≤ shift + 7 then (.error .varintTooLong, src)
          else readVarintLoop n src (shift + 7) v
      | (e, _, src) => (.error e, src)

/-- `read_varint_streaming`. -/
def readVarintStreaming (src : Source) (maxBytes : Nat) : Except Error UInt32 × Source :=
  readVarintLoop maxBytes src 0 0

/-- What `read_frame` writes for its caller. -/
structure FrameOut where
  payloadBuf : Memory
  typeOut : UInt16
  payloadLenOut : Nat

/-- The end of `read_frame`, once both varints are read. -/
def readPayload (src : Source) (payloadCap : Nat) (out : FrameOut) (size type : UInt32) :
    Error × FrameOut × Source :=
  if 0xffff < type then (.varintTooLong, out, src)
  else if payloadCap < size.toNat then (.messageTooLarge, out, src)
  else
    match readExact src size.toNat with
    | (.ok, got, src) => (.ok, ⟨out.payloadBuf.store 0 got, type.toUInt16, size.toNat⟩, src)
    | (e, got, src) => (e, { out with payloadBuf := out.payloadBuf.store 0 got }, src)

/-- `read_frame`. -/
def readFrame (src : Source) (payloadCap : Nat) (out : FrameOut) : Error × FrameOut × Source :=
  match readExact src 1 with
  | (.ok, indicator, src) =>
      if indicator.headD 0 ≠ 0x00 then (.badIndicator, out, src)
      else
        match readVarintStreaming src 3 with
        | (.error e, src) => (e, out, src)
        | (.ok size, src) =>
            match readVarintStreaming src 2 with
            | (.error e, src) => (e, out, src)
            | (.ok type, src) => readPayload src payloadCap out size type
  | (e, _, src) => (e, out, src)

/-! ## The reading loops -/

/-- `read_exact` stores the next `n` bytes, or all there are and the ending. -/
theorem readExact_spec (src : Source) (n : Nat) :
    ∃ after, readExact src n =
      (if n ≤ src.bytes.length then .ok else ofEnding src.ending, src.bytes.take n, after) ∧
      src.Reads n after := by
  induction n using Nat.strong_induction_on generalizing src with
  | _ n ih =>
      rw [readExact]
      by_cases none : n = 0
      · subst none
        exact ⟨src, by simp, by simp, rfl⟩
      · simp only [none, if_false]
        cases here : src.bytes with
        | nil =>
            obtain ⟨after, recvd, reads⟩ := Source.recv_nil here n
            refine ⟨after, ?_, ?_, reads.ending⟩
            · rw [recvd]
              simp [none]
            · rw [reads.bytes, here]
              simp
        | cons first rest =>
            obtain ⟨k, mid, recvd, atMost, inside, reads⟩ := Source.recv_cons here n
            have midBytes : mid.bytes = rest.drop k := by
              rw [reads.bytes, here, List.drop_succ_cons]
            obtain ⟨after, rest_, reads'⟩ := ih (n - (k + 1)) (by omega) mid
            refine ⟨after, ?_, ?_⟩
            · rw [recvd]
              simp only [List.length_take, Nat.min_eq_left inside, rest_, midBytes, reads.ending,
                List.length_drop, List.length_cons, Prod.mk.injEq, and_true]
              refine ⟨if_congr (by omega) rfl rfl, ?_⟩
              obtain ⟨m, rfl⟩ : ∃ m, n = k + m + 1 := ⟨n - (k + 1), by omega⟩
              rw [List.take_succ_cons, List.take_add]
              simp [Nat.add_sub_add_right]
            · have both := reads.trans reads'
              rwa [show k + 1 + (n - (k + 1)) = n by omega] at both

/-- A one-byte `read_exact`. -/
theorem readExact_one (src : Source) :
    (∃ b rest after, src.bytes = b :: rest ∧ readExact src 1 = (.ok, [b], after) ∧
      after.bytes = rest ∧ after.ending = src.ending) ∨
    (∃ after, src.bytes = [] ∧ readExact src 1 = (ofEnding src.ending, [], after) ∧
      after.bytes = [] ∧ after.ending = src.ending) := by
  obtain ⟨after, result, reads⟩ := readExact_spec src 1
  cases here : src.bytes with
  | nil =>
      refine .inr ⟨after, rfl, ?_, ?_, reads.ending⟩
      · simpa [here] using result
      · simpa [here] using reads.bytes
  | cons b rest =>
      refine .inl ⟨b, rest, after, rfl, ?_, ?_, reads.ending⟩
      · simpa [here] using result
      · simpa [here] using reads.bytes

theorem and_seven_bits (b : UInt8) : (b &&& 0x7f).toNat = b.toNat % 128 := by
  rw [UInt8.toNat_and]
  exact Nat.and_two_pow_sub_one_eq_mod b.toNat 7

theorem and_top_bit (b : UInt8) : b &&& 0x80 = 0 ↔ Varint.continues b = false := by
  have split : ∀ n : Fin 256, n.val &&& 128 = 0 ↔ n.val < 128 := by decide +kernel
  have here := split ⟨b.toNat, b.toNat_lt⟩
  rw [← UInt8.toNat_inj, UInt8.toNat_and]
  simpa [Varint.continues] using here

/-- One more group of seven bits above what has been read. -/
theorem toNat_or_group {v : UInt32} {shift : Nat} (b : UInt8) (below : v.toNat < 2 ^ shift)
    (room : shift + 7 ≤ 32) :
    (v ||| ((b &&& 0x7f).toUInt32 <<< UInt32.ofNat shift)).toNat =
      v.toNat + 2 ^ shift * (b.toNat % 128) := by
  have shiftNat : (UInt32.ofNat shift).toNat % 32 = shift := by
    rw [UInt32.toNat_ofNat']
    omega
  have fits : b.toNat % 128 * 2 ^ shift < 2 ^ 32 := by
    have group : b.toNat % 128 < 2 ^ 7 := Nat.mod_lt _ (by decide)
    calc b.toNat % 128 * 2 ^ shift < 2 ^ 7 * 2 ^ shift :=
          Nat.mul_lt_mul_of_pos_right group (Nat.two_pow_pos shift)
      _ = 2 ^ (shift + 7) := by rw [← Nat.pow_add, Nat.add_comm]
      _ ≤ 2 ^ 32 := Nat.pow_le_pow_right (by decide) room
  rw [UInt32.toNat_or, UInt32.toNat_shiftLeft, UInt8.toNat_toUInt32, and_seven_bits, shiftNat,
    Nat.shiftLeft_eq, Nat.mod_eq_of_lt fits, Nat.or_comm, Nat.mul_comm,
    ← Nat.two_pow_add_eq_or_of_lt below, Nat.add_comm]

/-- What a varint reader returns, against the scan of the bytes to come. -/
def Scanned (src : Source) (v shift : Nat) (r : Except Error UInt32 × Source) :
    Varint.Scan → Prop
  | .done w rest => (∃ x, r.1 = .ok x ∧ x.toNat = v + 2 ^ shift * w) ∧ r.2.bytes = rest
  | .tooLong rest => r.1 = .error .varintTooLong ∧ r.2.bytes = rest
  | .short => r.1 = .error (ofEnding src.ending) ∧ r.2.bytes = []

theorem readVarintLoop_spec (n : Nat) (src : Source) (shift : Nat) (v : UInt32)
    (below : v.toNat < 2 ^ shift) (room : shift + 7 * n < 32) :
    Scanned src v.toNat shift (readVarintLoop n src shift v) (Varint.scan n src.bytes) ∧
      (readVarintLoop n src shift v).2.ending = src.ending := by
  induction n generalizing src shift v with
  | zero => exact ⟨⟨rfl, rfl⟩, rfl⟩
  | succ n ih =>
      rcases readExact_one src with ⟨b, rest, after, here, read, bytes, ending⟩ |
        ⟨after, here, read, bytes, ending⟩
      · have group := toNat_or_group b below (by omega)
        rw [here, Varint.scan_cons]
        simp only [readVarintLoop, read, List.headD_cons]
        by_cases more : Varint.continues b = true
        · have topBit : ¬ b &&& 0x80 = 0 := by simp [and_top_bit, more]
          simp only [topBit, if_false, show ¬ 32 ≤ shift + 7 by omega, more, if_true]
          have grown : (v ||| ((b &&& 0x7f).toUInt32 <<< UInt32.ofNat shift)).toNat <
              2 ^ (shift + 7) := by
            have small : b.toNat % 128 < 128 := Nat.mod_lt _ (by decide)
            rw [group, Nat.pow_add]
            nlinarith [Nat.two_pow_pos shift]
          obtain ⟨inner, endingInner⟩ := ih after (shift + 7) _ grown (by omega)
          refine ⟨?_, endingInner.trans ending⟩
          rw [bytes] at inner
          cases scanned : Varint.scan n rest with
          | done w rest' =>
              rw [scanned] at inner
              obtain ⟨⟨x, isX, valueX⟩, restX⟩ := inner
              refine ⟨⟨x, isX, ?_⟩, restX⟩
              rw [valueX, group, Nat.pow_add]
              ring
          | tooLong rest' =>
              rw [scanned] at inner
              exact inner
          | short =>
              rw [scanned] at inner
              exact ⟨by rw [inner.1, ending], inner.2⟩
        · have topBit : b &&& 0x80 = 0 := by simpa [and_top_bit] using more
          have small : b.toNat < 128 := by simpa [Varint.continues] using more
          simp only [topBit, if_true, more, Bool.false_eq_true, if_false]
          refine ⟨⟨⟨_, rfl, ?_⟩, bytes⟩, ending⟩
          rw [group, Nat.mod_eq_of_lt small]
      · have ended : ofEnding src.ending ≠ .ok := by cases src.ending <;> decide
        rw [here, Varint.scan_nil]
        simp only [readVarintLoop, read]
        cases result : ofEnding src.ending with
        | ok => exact absurd result ended
        | eof | socketError | badIndicator | varintTooLong | messageTooLarge =>
            exact ⟨⟨by rw [result], bytes⟩, ending⟩

/-- With a budget of up to four bytes `read_varint_streaming` is the scan. -/
theorem readVarintStreaming_spec (src : Source) (max : Nat) (budget : max ≤ 4) :
    Scanned src 0 0 (readVarintStreaming src max) (Varint.scan max src.bytes) ∧
      (readVarintStreaming src max).2.ending = src.ending :=
  readVarintLoop_spec max src 0 0 (by decide) (by omega)

/-! ## The writing loops -/

theorem toUInt8_or_top_bit (v : UInt32) :
    (v ||| 0x80).toUInt8 = UInt8.ofNat (v.toNat % 128 + 128) := by
  have split : ∀ n : Fin 256, n.val ||| 128 = n.val % 128 + 128 := by decide +kernel
  have here : v.toNat % 2 ^ 8 ||| 128 = v.toNat % 2 ^ 8 % 128 + 128 :=
    split ⟨v.toNat % 2 ^ 8, Nat.mod_lt _ (by decide)⟩
  apply UInt8.toNat_inj.mp
  rw [Varint.toNat_group, UInt32.toNat_toUInt8, UInt32.toNat_or, Nat.or_mod_two_pow]
  rw [show (0x80 : UInt32).toNat % 2 ^ 8 = 128 from rfl, here]
  omega

/-- `encode_varint` writes the shortest varint. -/
theorem encodeVarint_eq (v : UInt32) : encodeVarint v = Varint.encode v.toNat := by
  induction size : v.toNat using Nat.strong_induction_on generalizing v with
  | _ n ih =>
      subst size
      rw [encodeVarint, Varint.encode]
      by_cases big : 0x80 ≤ v
      · have atLeast : 128 ≤ v.toNat := big
        rw [if_pos big, if_neg (by omega), toUInt8_or_top_bit, ih _ (shiftRight_lt big) _ rfl,
          shiftRight_seven]
      · have small : v.toNat < 128 := Nat.not_le.mp big
        rw [if_neg big, if_pos small]
        rfl

theorem varintLen_eq (v : UInt32) : varintLen v = Varint.size v.toNat := by
  induction size : v.toNat using Nat.strong_induction_on generalizing v with
  | _ n ih =>
      subst size
      rw [varintLen, Varint.size]
      by_cases big : 0x80 ≤ v
      · have atLeast : 128 ≤ v.toNat := big
        rw [if_pos big, if_neg (by omega), ih _ (shiftRight_lt big) _ rfl, shiftRight_seven]
      · have small : v.toNat < 128 := Nat.not_le.mp big
        rw [if_neg big, if_pos small]

/-- The header of a frame. -/
def header (msgType : UInt16) (payloadLen : Nat) : List UInt8 :=
  0x00 :: (Varint.encode payloadLen ++ Varint.encode msgType.toNat)

theorem length_header (msgType : UInt16) (payloadLen : Nat) :
    (header msgType payloadLen).length =
      1 + Varint.size payloadLen + Varint.size msgType.toNat := by
  simp [header, Varint.length_encode]
  omega

/-- A payload of at most 2048 bytes leaves three bytes of room for the type, which is
what the largest type needs. -/
theorem length_header_le (msgType : UInt16) {payloadLen : Nat} (short : payloadLen ≤ 2048) :
    (header msgType payloadLen).length ≤ maxHeaderLen := by
  have sizeVl := (Varint.size_le_iff payloadLen 1).mpr (by omega)
  have typeVl := (Varint.size_le_iff msgType.toNat 2).mpr (by have := msgType.toNat_lt; omega)
  rw [length_header, maxHeaderLen]
  omega

/-- `prepend_header` starts the header so that it ends where the payload begins, writes
it there, and leaves the payload alone. -/
theorem prependHeader_spec (buf : Memory) (msgType : UInt16) {payloadLen : Nat}
    (short : payloadLen ≤ 2048) :
    (prependHeader buf msgType payloadLen).1 + (header msgType payloadLen).length = maxHeaderLen ∧
    (prependHeader buf msgType payloadLen).2.load (prependHeader buf msgType payloadLen).1
      (maxHeaderLen - (prependHeader buf msgType payloadLen).1 + payloadLen) =
      header msgType payloadLen ++ buf.load maxHeaderLen payloadLen := by
  have room := length_header_le msgType short
  have lenNat : (UInt32.ofNat payloadLen).toNat = payloadLen := by
    rw [UInt32.toNat_ofNat']
    omega
  have typeNat : msgType.toUInt32.toNat = msgType.toNat := UInt16.toNat_toUInt32 msgType
  have sum : (prependHeader buf msgType payloadLen).1 + (header msgType payloadLen).length =
      maxHeaderLen := by
    simp only [prependHeader, varintLen_eq, lenNat, typeNat]
    rw [length_header] at room ⊢
    rw [maxHeaderLen] at room ⊢
    omega
  refine ⟨sum, ?_⟩
  generalize startIs : (prependHeader buf msgType payloadLen).1 = start at sum ⊢
  have bufIs : (prependHeader buf msgType payloadLen).2 =
      ((buf.store start [0x00]).store (start + 1) (Varint.encode payloadLen)).store
        (start + 1 + Varint.size payloadLen) (Varint.encode msgType.toNat) := by
    rw [← startIs]
    simp only [prependHeader, encodeVarint_eq, varintLen_eq, lenNat, typeNat]
  have lengthIs := length_header msgType payloadLen
  have sizeLen := Varint.length_encode payloadLen
  have typeLen := Varint.length_encode msgType.toNat
  rw [bufIs, show maxHeaderLen - start + payloadLen =
    1 + (Varint.size payloadLen + (Varint.size msgType.toNat + payloadLen)) by omega,
    Memory.load_append, Memory.load_append, Memory.load_append]
  -- each part was stored last where it stands
  have indicator : (((buf.store start [0x00]).store (start + 1) (Varint.encode payloadLen)).store
      (start + 1 + Varint.size payloadLen) (Varint.encode msgType.toNat)).load start 1 = [0x00] := by
    rw [Memory.load_store_apart (by omega), Memory.load_store_apart (by omega)]
    exact Memory.load_store buf start [0x00]
  have size : (((buf.store start [0x00]).store (start + 1) (Varint.encode payloadLen)).store
      (start + 1 + Varint.size payloadLen) (Varint.encode msgType.toNat)).load (start + 1)
      (Varint.size payloadLen) = Varint.encode payloadLen := by
    rw [Memory.load_store_apart (by omega), ← sizeLen]
    exact Memory.load_store _ _ _
  have type : (((buf.store start [0x00]).store (start + 1) (Varint.encode payloadLen)).store
      (start + 1 + Varint.size payloadLen) (Varint.encode msgType.toNat)).load
      (start + 1 + Varint.size payloadLen) (Varint.size msgType.toNat) =
        Varint.encode msgType.toNat := by
    rw [← typeLen]
    exact Memory.load_store _ _ _
  have payload : (((buf.store start [0x00]).store (start + 1) (Varint.encode payloadLen)).store
      (start + 1 + Varint.size payloadLen) (Varint.encode msgType.toNat)).load
      (start + 1 + Varint.size payloadLen + Varint.size msgType.toNat) payloadLen =
        buf.load maxHeaderLen payloadLen := by
    rw [Memory.load_store_apart (by omega), Memory.load_store_apart (by omega),
      Memory.load_store_apart (by simp; omega)]
    exact congrArg (buf.load · payloadLen) (by omega)
  rw [indicator, size, type, payload]
  simp [header]

/-- The frame of a message: its header, then its payload, whatever the staging buffer
held before. -/
theorem frame_eq (staging : Memory) (m : Message) (short : m.payload.length ≤ 2048) :
    frame staging m = header m.type m.payload.length ++ m.payload := by
  have spec := (prependHeader_spec (staging.store maxHeaderLen m.payload) m.type short).2
  rw [Memory.load_store] at spec
  exact spec

end NimbleProxy.Api.FrameCodec
