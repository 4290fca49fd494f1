/-
# Api.VarintLaws -- the varint functions against each other

`decode_varint` of `frame_codec.cpp` beside `encode_varint`, `varint_len` and
`read_varint_streaming` of `Api.FrameCodec`. The two readers are the same loop over a flat
string and over a stream (`sameOutcome`). It stops behind the fifth byte; of this byte only
four bits have room in the result and the other three are shifted out, which is not noticed
(`decodeVarint_eq`, `exactSum_iff`).
-/
import NimbleProxy.Api.FrameReading

namespace NimbleProxy.Api.FrameCodec

open NimbleProxy.Theory

set_option autoImplicit false

/-- `VarintParse`. -/
structure VarintParse where
  value : UInt32
  /-- 0 for not enough bytes or an overflow -/
  consumed : Nat
  deriving DecidableEq

/-- The loop of `decode_varint`, on the bytes up to `cap` that are left. -/
def decodeLoop (i shift : Nat) (v : UInt32) : List UInt8 → VarintParse
  | [] => ⟨0, 0⟩
  | b :: rest =>
      let v := v ||| ((b &&& 0x7f).toUInt32 <<< UInt32.ofNat shift)
      if b &&& 0x80 = 0 then ⟨v, i + 1⟩
      else if 32 ≤ shift + 7 then ⟨0, 0⟩
      else decodeLoop (i + 1) (shift + 7) v rest

/-- `decode_varint`. -/
def decodeVarint (bytes : List UInt8) (maxBytes : Nat) : VarintParse :=
  let cap := if bytes.length < maxBytes then bytes.length else maxBytes
  decodeLoop 0 0 0 (bytes.take cap)

/-! ## The two readers -/

/-- A reading of a stream has the outcome of a parse that had consumed `i` bytes before. -/
def SameOutcome (i : Nat) (src : Source) (r : Except Error UInt32 × Source) (parse : VarintParse) :
    Prop :=
  (parse.consumed = 0 ∧ ∃ e, r.1 = .error e) ∨
    (i < parse.consumed ∧ r.1 = .ok parse.value ∧ r.2.bytes = src.bytes.drop (parse.consumed - i))

theorem readVarintLoop_sameOutcome (n i shift : Nat) (v : UInt32) (src : Source) :
    SameOutcome i src (readVarintLoop n src shift v) (decodeLoop i shift v (src.bytes.take n)) := by
  induction n generalizing i shift v src with
  | zero => exact .inl ⟨rfl, _, rfl⟩
  | succ n ih =>
      rcases readExact_one src with ⟨b, rest, after, here, read, bytes, -⟩ |
        ⟨after, here, read, -, -⟩
      · rw [here, List.take_succ_cons]
        simp only [readVarintLoop, read, decodeLoop, List.headD_cons]
        by_cases last : b &&& 0x80 = 0
        · simp only [last, if_true]
          refine .inr ⟨Nat.lt_succ_self i, rfl, ?_⟩
          show after.bytes = src.bytes.drop (i + 1 - i)
          rw [bytes, here, Nat.add_sub_cancel_left]
          rfl
        · simp only [last, if_false]
          by_cases full : 32 ≤ shift + 7
          · simp only [full, if_true]
            exact .inl ⟨rfl, _, rfl⟩
          · simp only [full, if_false]
            have later := ih (i + 1) (shift + 7)
              (v ||| ((b &&& 0x7f).toUInt32 <<< UInt32.ofNat shift)) after
            rw [bytes] at later
            rcases later with failed | ⟨more, ok, left⟩
            · exact .inl failed
            · refine .inr ⟨Nat.lt_of_succ_lt more, ok, ?_⟩
              rw [left, bytes, here]
              obtain ⟨k, split⟩ := Nat.exists_eq_add_of_lt more
              rw [split, show i + 1 + k + 1 - i = k + 1 + 1 by omega,
                show i + 1 + k + 1 - (i + 1) = k + 1 by omega, List.drop_succ_cons]
      · have none_ : decodeLoop i shift v (src.bytes.take (n + 1)) = ⟨0, 0⟩ := by
          rw [here]
          rfl
        rw [none_]
        have failed := ofEnding_ne_ok src.ending
        simp only [readVarintLoop, read]
        cases result : ofEnding src.ending with
        | ok => exact absurd result failed
        | eof | socketError | badIndicator | varintTooLong | messageTooLarge =>
            exact .inl ⟨rfl, _, rfl⟩

theorem decodeVarint_take (bytes : List UInt8) (maxBytes : Nat) :
    decodeVarint bytes maxBytes = decodeLoop 0 0 0 (bytes.take maxBytes) := by
  unfold decodeVarint
  dsimp only
  split
  · rename_i short
    rw [List.take_of_length_le (Nat.le_refl _), List.take_of_length_le (Nat.le_of_lt short)]
  · rfl

/-- **The same inputs, the same value, the same number of bytes.** -/
theorem sameOutcome (src : Source) (maxBytes : Nat) :
    SameOutcome 0 src (readVarintStreaming src maxBytes) (decodeVarint src.bytes maxBytes) := by
  rw [decodeVarint_take]
  exact readVarintLoop_sameOutcome maxBytes 0 0 0 src

/-! ## What is read -/

section Value

variable {v : UInt32} {shift w : Nat} {bytes rest digits body : List UInt8} {b last : UInt8}

theorem mul_mod_word (room : shift < 32) (n : Nat) :
    2 ^ shift * n % 2 ^ 32 = 2 ^ shift * (n % 2 ^ (32 - shift)) := by
  have word : 2 ^ 32 = 2 ^ shift * 2 ^ (32 - shift) := by
    rw [← Nat.pow_add, Nat.add_sub_cancel' (Nat.le_of_lt room)]
  rw [word, Nat.mul_mod_mul_left]

/-- A group of seven bits above what has been read, as far as there is room for it. -/
theorem toNat_or_group_mod (b : UInt8) (below : v.toNat < 2 ^ shift) (room : shift < 32) :
    (v ||| ((b &&& 0x7f).toUInt32 <<< UInt32.ofNat shift)).toNat =
      v.toNat + 2 ^ shift * (b.toNat % 128 % 2 ^ (32 - shift)) := by
  have shiftNat : (UInt32.ofNat shift).toNat % 32 = shift := by
    rw [UInt32.toNat_ofNat']
    omega
  rw [UInt32.toNat_or, UInt32.toNat_shiftLeft, UInt8.toNat_toUInt32, and_seven_bits, shiftNat,
    Nat.shiftLeft_eq, Nat.mul_comm, mul_mod_word room, Nat.or_comm, ← Nat.two_pow_add_eq_or_of_lt below,
    Nat.add_comm]

/-- **The loop**: a varint of what is left of five bytes, in 32 bits. -/
theorem decodeLoop_eq (j i : Nat) (four : j ≤ 4) (below : v.toNat < 2 ^ (7 * j))
    (bytes : List UInt8) :
    decodeLoop i (7 * j) v bytes =
      match Varint.scan (5 - j) bytes with
      | .done w rest =>
          ⟨UInt32.ofNat (v.toNat + 2 ^ (7 * j) * w), i + (bytes.length - rest.length)⟩
      | _ => ⟨0, 0⟩ := by
  induction bytes generalizing j i v with
  | nil =>
      obtain ⟨budget, more⟩ : ∃ budget, 5 - j = budget + 1 := ⟨4 - j, by omega⟩
      rw [more, Varint.scan_nil]
      rfl
  | cons b rest ih =>
      obtain ⟨budget, more⟩ : ∃ budget, 5 - j = budget + 1 := ⟨4 - j, by omega⟩
      rw [more, Varint.scan_cons]
      have group := toNat_or_group_mod b below (show 7 * j < 32 by omega)
      unfold decodeLoop
      dsimp only
      by_cases last : Varint.continues b = true
      · rw [if_neg (by simp [and_top_bit, last]), if_pos last]
        by_cases full : 32 ≤ 7 * j + 7
        · obtain rfl : budget = 0 := by omega
          rw [if_pos full, Varint.scan_zero]
          rfl
        · have wide : b.toNat % 128 % 2 ^ (32 - 7 * j) = b.toNat % 128 := by
            apply Nat.mod_eq_of_lt
            have seven : 2 ^ 7 ≤ 2 ^ (32 - 7 * j) := Nat.pow_le_pow_right (by decide) (by omega)
            exact Nat.lt_of_lt_of_le (Nat.mod_lt _ (by decide)) seven
          rw [wide] at group
          have grown : (v ||| ((b &&& 0x7f).toUInt32 <<< UInt32.ofNat (7 * j))).toNat <
              2 ^ (7 * (j + 1)) := by
            have small : b.toNat % 128 < 128 := Nat.mod_lt _ (by decide)
            rw [group, Nat.mul_succ, Nat.pow_add]
            nlinarith [Nat.two_pow_pos (7 * j)]
          have step := ih (j + 1) (i + 1) (by omega) grown
          rw [if_neg full, show 7 * j + 7 = 7 * (j + 1) from rfl, step,
            show 5 - (j + 1) = budget by omega]
          cases scanned : Varint.scan budget rest with
          | done w after =>
              obtain ⟨digits, whole, -⟩ := Varint.scan_done_iff.mp scanned
              have shorter : after.length ≤ rest.length := by
                rw [whole, List.length_append]
                exact Nat.le_add_left _ _
              simp only [Varint.Scan.after, VarintParse.mk.injEq, List.length_cons]
              refine ⟨congrArg UInt32.ofNat ?_, by omega⟩
              rw [group, Nat.mul_succ, Nat.pow_add]
              ring
          | tooLong after => rfl
          | short => rfl
      · have small : b.toNat % 128 = b.toNat := by
          apply Nat.mod_eq_of_lt
          simpa [Varint.continues] using last
        have stop : Varint.continues b = false := by simpa using last
        rw [if_pos ((and_top_bit b).mpr stop), if_neg last]
        simp only [List.length_cons, VarintParse.mk.injEq]
        refine ⟨?_, by omega⟩
        apply UInt32.toNat_inj.mp
        have bound : v.toNat + 2 ^ (7 * j) * (b.toNat % 2 ^ (32 - 7 * j)) < 2 ^ 32 := by
          rw [← small, ← group]
          exact UInt32.toNat_lt _
        rw [group, small, UInt32.toNat_ofNat', ← Nat.mod_eq_of_lt bound]
        rw [← mul_mod_word (by omega), Nat.add_mod_mod]

/-- `decode_varint` is the scan of at most five bytes, in 32 bits. -/
theorem decodeVarint_eq (bytes : List UInt8) (maxBytes : Nat) :
    decodeVarint bytes maxBytes =
      match Varint.scan 5 (bytes.take maxBytes) with
      | .done w rest => ⟨UInt32.ofNat w, (bytes.take maxBytes).length - rest.length⟩
      | _ => ⟨0, 0⟩ := by
  rw [decodeVarint_take]
  have whole := decodeLoop_eq 0 0 (Nat.zero_le 4) (v := 0) (by decide) (bytes.take maxBytes)
  refine whole.trans ?_
  simp

/-- What is parsed is a varint of at most five bytes at the start, and there is none if nothing is. -/
theorem decodeVarint_cases (bytes : List UInt8) (maxBytes : Nat) :
    (∃ digits rest w, bytes = digits ++ rest ∧ digits.length ≤ maxBytes ∧ Varint.IsVarint 5 digits w ∧
        decodeVarint bytes maxBytes = ⟨UInt32.ofNat w, digits.length⟩) ∨
      (decodeVarint bytes maxBytes = ⟨0, 0⟩ ∧ ∀ digits rest w, bytes = digits ++ rest →
        digits.length ≤ maxBytes → ¬ Varint.IsVarint 5 digits w) := by
  rw [decodeVarint_eq]
  have none_ (other : ∀ w rest, Varint.scan 5 (bytes.take maxBytes) ≠ .done w rest) :
      ∀ digits rest w, bytes = digits ++ rest → digits.length ≤ maxBytes →
        ¬ Varint.IsVarint 5 digits w := by
    rintro digits rest w rfl fits isVarint
    apply other w (rest.take (maxBytes - digits.length))
    rw [Varint.scan_done_iff]
    exact ⟨digits, by rw [List.take_append, List.take_of_length_le fits], isVarint⟩
  cases scanned : Varint.scan 5 (bytes.take maxBytes) with
  | done w after =>
      obtain ⟨digits, split, isVarint⟩ := Varint.scan_done_iff.mp scanned
      have size := congrArg List.length split
      rw [List.length_append] at size
      refine .inl ⟨digits, after ++ bytes.drop maxBytes, w, ?_, ?_, isVarint, ?_⟩
      · rw [← List.append_assoc, ← split, List.take_append_drop]
      · rw [List.length_take] at size
        omega
      · show VarintParse.mk _ ((bytes.take maxBytes).length - after.length) = _
        rw [size, Nat.add_sub_cancel]
  | tooLong after => exact .inr ⟨rfl, none_ (by simp [scanned])⟩
  | short => exact .inr ⟨rfl, none_ (by simp [scanned])⟩

/-- The sum of the groups. -/
def groupSum (digits : List UInt8) : Nat :=
  (digits.zipIdx.map fun p => (p.1 &&& 0x7f).toNat * 128 ^ p.2).sum

theorem groupSum_eq (digits : List UInt8) : groupSum digits = Varint.value digits := by
  have above (k : Nat) : ((digits.zipIdx k).map fun p => (p.1 &&& 0x7f).toNat * 128 ^ p.2).sum =
      128 ^ k * Varint.value digits := by
    induction digits generalizing k with
    | nil => rfl
    | cons b rest ih =>
        rw [List.zipIdx_cons, List.map_cons, List.sum_cons, ih, Varint.value_cons, and_seven_bits,
          Nat.pow_succ]
        ring
  have all := above 0
  rwa [Nat.pow_zero, Nat.one_mul] at all

/-- The last group is above the others. -/
theorem value_concat (body : List UInt8) (last : UInt8) :
    Varint.value (body ++ [last]) = Varint.value body + 128 ^ body.length * (last.toNat % 128) := by
  induction body with
  | nil =>
      show last.toNat % 128 + 128 * 0 = 0 + 128 ^ 0 * (last.toNat % 128)
      rw [Nat.pow_zero, Nat.one_mul, Nat.mul_zero, Nat.add_zero, Nat.zero_add]
  | cons b rest ih =>
      rw [List.cons_append, Varint.value_cons, Varint.value_cons, ih, List.length_cons, Nat.pow_succ]
      ring

/-- Which varints of at most five bytes do not fit. -/
theorem large_iff (isVarint : Varint.IsVarint 5 digits w) :
    2 ^ 32 ≤ w ↔ ∃ body last, digits = body ++ [last] ∧ body.length = 4 ∧
      (∀ b ∈ body, Varint.continues b = true) ∧ 16 ≤ last.toNat ∧ last.toNat < 128 := by
  obtain ⟨body, last, rfl, more, stop⟩ := isVarint.shape
  have small : last.toNat < 128 := by simpa [Varint.continues] using stop
  have sum : w = Varint.value body + 128 ^ body.length * last.toNat := by
    rw [isVarint.value, value_concat, Nat.mod_eq_of_lt small]
  have bound := Varint.value_lt body
  have whole := Varint.value_lt (body ++ [last])
  rw [← isVarint.value, List.length_append, List.length_singleton] at whole
  have length := isVarint.length
  rw [List.length_append, List.length_singleton] at length
  by_cases four : body.length = 4
  · rw [four] at sum bound
    constructor
    · intro large
      exact ⟨body, last, rfl, four, more, by omega, small⟩
    · rintro ⟨body', last', same, four', -, high, -⟩
      obtain ⟨-, rfl⟩ := List.append_inj' same rfl |>.imp_right List.singleton_inj.mp
      omega
  · refine iff_of_false ?_ ?_
    · have power : 128 ^ (body.length + 1) ≤ 128 ^ 4 := Nat.pow_le_pow_right (by decide) (by omega)
      omega
    · rintro ⟨body', last', same, four', -⟩
      obtain ⟨rfl, -⟩ := List.append_inj' same rfl
      exact four four'

end Value

/-! ## The laws -/

/-- What the comment on `VarintParse` says: a value is the sum of the groups of the bytes that were
consumed, and a sum that does not fit is reported. -/
structure ExactSum (bytes : List UInt8) (maxBytes : Nat) : Prop where
  exact : 0 < (decodeVarint bytes maxBytes).consumed →
    (decodeVarint bytes maxBytes).value.toNat =
      groupSum (bytes.take (decodeVarint bytes maxBytes).consumed)
  overflow : ∀ digits rest w, bytes = digits ++ rest → Varint.IsVarint maxBytes digits w →
    2 ^ 32 ≤ groupSum digits → (decodeVarint bytes maxBytes).consumed = 0

/-- Four bytes that another one follows, and a last one with more than four bits. -/
def TopLost (bytes : List UInt8) (maxBytes : Nat) : Prop :=
  5 ≤ maxBytes ∧ ∃ body last rest, bytes = body ++ last :: rest ∧ body.length = 4 ∧
    (∀ b ∈ body, Varint.continues b = true) ∧ 16 ≤ last.toNat ∧ last.toNat < 128

theorem isVarint_mono {max max' w : Nat} {digits : List UInt8}
    (isVarint : Varint.IsVarint max digits w) (fits : digits.length ≤ max') :
    Varint.IsVarint max' digits w :=
  ⟨fits, isVarint.shape, isVarint.value⟩

theorem topLost_of_large {bytes digits rest : List UInt8} {maxBytes w : Nat}
    (split : bytes = digits ++ rest) (isVarint : Varint.IsVarint 5 digits w)
    (fits : digits.length ≤ maxBytes) (large : 2 ^ 32 ≤ w) : TopLost bytes maxBytes := by
  obtain ⟨body, last, rfl, four, more, high, small⟩ := (large_iff isVarint).mp large
  rw [List.length_append, List.length_singleton, four] at fits
  refine ⟨fits, body, last, rest, ?_, four, more, high, small⟩
  rw [split, List.append_assoc, List.singleton_append]

theorem exactSum_iff (bytes : List UInt8) (maxBytes : Nat) :
    ExactSum bytes maxBytes ↔ ¬ TopLost bytes maxBytes := by
  constructor
  · rintro exact ⟨five, body, last, rest, rfl, four, more, high, small⟩
    have stop : Varint.continues last = false := by simpa [Varint.continues] using small
    have isVarint : Varint.IsVarint 5 (body ++ [last]) (Varint.value (body ++ [last])) :=
      ⟨by simp [four], ⟨body, last, rfl, more, stop⟩, rfl⟩
    have split : body ++ last :: rest = (body ++ [last]) ++ rest := by simp
    have large : 2 ^ 32 ≤ Varint.value (body ++ [last]) :=
      (large_iff isVarint).mpr ⟨body, last, rfl, four, more, high, small⟩
    have fits : (body ++ [last]).length ≤ maxBytes := by simpa [four] using five
    have nothing := exact.overflow _ _ _ split (isVarint_mono isVarint fits) (by rwa [groupSum_eq])
    rcases decodeVarint_cases (body ++ last :: rest) maxBytes with
      ⟨digits, rest', w, -, -, shape, same⟩ | ⟨-, none_⟩
    · obtain ⟨front, end_, rfl, -⟩ := shape.shape
      rw [same] at nothing
      simp at nothing
    · exact none_ _ _ _ split fits isVarint
  · intro kept
    rcases decodeVarint_cases bytes maxBytes with
      ⟨digits, rest, w, split, fits, isVarint, same⟩ | ⟨same, none_⟩
    · have small : w < 2 ^ 32 :=
        Nat.lt_of_not_le fun large => kept (topLost_of_large split isVarint fits large)
      constructor
      · intro _
        rw [same, split, groupSum_eq, List.take_left]
        show (UInt32.ofNat w).toNat = _
        rw [UInt32.toNat_ofNat', Nat.mod_eq_of_lt small, isVarint.value]
      · intro digits' rest' w' split' isVarint' large
        -- a string starts with one varint only
        have one := Varint.scan_done_iff.mpr ⟨digits, split, isVarint_mono isVarint fits⟩
        rw [Varint.scan_done_iff.mpr ⟨digits', split', isVarint'⟩] at one
        obtain ⟨rfl, rfl⟩ := Varint.Scan.done.inj one
        rw [groupSum_eq, ← isVarint'.value] at large
        omega
    · refine ⟨fun some_ => ?_, fun _ _ _ _ _ _ => ?_⟩
      · rw [same] at some_
        cases some_
      · rw [same]

/-- What was encoded is parsed. -/
theorem decodeVarint_encodeVarint (v : UInt32) (rest : List UInt8) {maxBytes : Nat}
    (room : varintLen v ≤ maxBytes) :
    decodeVarint (encodeVarint v ++ rest) maxBytes = ⟨v, varintLen v⟩ := by
  have five : Varint.size v.toNat ≤ 5 :=
    (Varint.size_le_iff v.toNat 4).mpr (Nat.lt_trans v.toNat_lt (by decide))
  rw [varintLen_eq] at room ⊢
  have fits := (Varint.length_encode v.toNat).trans_le room
  rw [decodeVarint_eq, encodeVarint_eq, List.take_append, List.take_of_length_le fits,
    Varint.scan_encode v.toNat 5 _ five]
  dsimp only
  rw [List.length_append, Nat.add_sub_cancel, Varint.length_encode, UInt32.ofNat_toNat]

/-- **The laws of the varints.** What is encoded has the length that is told and is parsed back, the
two readers agree on every input, and a parse is the exact sum, or reports an overflow, exactly if
no bits of a fifth byte are lost. -/
theorem varint_laws (v : UInt32) (rest : List UInt8) (src : Source) (maxBytes : Nat) :
    (encodeVarint v).length = varintLen v ∧
      (varintLen v ≤ maxBytes → decodeVarint (encodeVarint v ++ rest) maxBytes = ⟨v, varintLen v⟩) ∧
      SameOutcome 0 src (readVarintStreaming src maxBytes) (decodeVarint src.bytes maxBytes) ∧
      (ExactSum src.bytes maxBytes ↔ ¬ TopLost src.bytes maxBytes) := by
  refine ⟨?_, decodeVarint_encodeVarint v rest, sameOutcome src maxBytes, exactSum_iff _ _⟩
  rw [encodeVarint_eq, varintLen_eq, Varint.length_encode]

/-- Five bytes for 2 ^ 32: parsed as 0. -/
theorem top_bit_lost :
    decodeVarint [0x80, 0x80, 0x80, 0x80, 0x10] 5 = ⟨0, 5⟩ ∧
      groupSum [0x80, 0x80, 0x80, 0x80, 0x10] = 2 ^ 32 ∧
      ¬ ExactSum [0x80, 0x80, 0x80, 0x80, 0x10] 5 := by
  refine ⟨by decide, by decide, fun exact => ?_⟩
  exact absurd (exact.exact (by decide)) (by decide)

end NimbleProxy.Api.FrameCodec
