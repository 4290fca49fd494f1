/-
# Api.FrameReading -- read_frame against a parser on the flat byte string

`parseFrame` says what a frame is, on the whole string at once and without a
socket: the stages in order, the error of the first one that fails, and what is
left unread. `read_frame` returns what it returns, for every way in which the
transport splits the stream (`read_frame_parses`), and reads back every sequence
of frames that `prepend_header` made (`frames_round_trip`).
-/
import NimbleProxy.Api.FrameCodec

namespace NimbleProxy.Api.FrameCodec

open NimbleProxy.Theory

set_option autoImplicit false

/-! ## The reference parser -/

/-- What a flat byte string holds: a message or the first failing stage, and the bytes
after the frame or after the point of failure. -/
structure Parsed where
  result : Except Error Message
  rest : List UInt8

/-- The stages after both varints: size against the capacity, payload. -/
def parsePayload (cap : Nat) (ending : Ending) (size type : Nat) (bytes : List UInt8) : Parsed :=
  if cap < size then ⟨.error .messageTooLarge, bytes⟩
  else if bytes.length < size then ⟨.error (ofEnding ending), []⟩
  else ⟨.ok ⟨UInt16.ofNat type, bytes.take size⟩, bytes.drop size⟩

/-- Indicator, size of at most three bytes, type of at most two, then the payload. -/
def parseFrame (cap : Nat) (ending : Ending) (bytes : List UInt8) : Parsed :=
  match bytes with
  | [] => ⟨.error (ofEnding ending), []⟩
  | indicator :: afterIndicator =>
      if indicator ≠ 0x00 then ⟨.error .badIndicator, afterIndicator⟩
      else
        match Varint.scan 3 afterIndicator with
        | .short => ⟨.error (ofEnding ending), []⟩
        | .tooLong rest => ⟨.error .varintTooLong, rest⟩
        | .done size afterSize =>
            match Varint.scan 2 afterSize with
            | .short => ⟨.error (ofEnding ending), []⟩
            | .tooLong rest => ⟨.error .varintTooLong, rest⟩
            | .done type afterType => parsePayload cap ending size type afterType

/-- What the caller of `read_frame` is told: the message, or an error and its outputs
left alone. -/
def Reports (before after : FrameOut) (e : Error) : Except Error Message → Prop
  | .ok m => e = .ok ∧ after.typeOut = m.type ∧ after.payloadLenOut = m.payload.length ∧
      after.payloadBuf.load 0 m.payload.length = m.payload
  | .error e' => e = e' ∧ e ≠ .ok ∧ after.typeOut = before.typeOut ∧
      after.payloadLenOut = before.payloadLenOut

/-- `read_frame`'s result agrees with the parser's. -/
structure Agrees (cap : Nat) (src : Source) (out : FrameOut) (r : Error × FrameOut × Source)
    (p : Parsed) : Prop where
  reports : Reports out r.2.1 r.1 p.result
  rest : r.2.2.bytes = p.rest
  ending : r.2.2.ending = src.ending
  frame : ∀ j, cap ≤ j → r.2.1.payloadBuf j = out.payloadBuf j

theorem ofEnding_ne_ok (ending : Ending) : ofEnding ending ≠ .ok := by
  cases ending <;> decide

/-- The shape of a result that stops at a stage. -/
theorem agrees_error {cap : Nat} {src after : Source} {out : FrameOut} {e : Error}
    {rest : List UInt8} (failed : e ≠ .ok) (bytes : after.bytes = rest)
    (ending : after.ending = src.ending) : Agrees cap src out (e, out, after) ⟨.error e, rest⟩ :=
  ⟨⟨rfl, failed, rfl, rfl⟩, bytes, ending, fun _ _ => rfl⟩

/-- The end of `read_frame` against the end of the parser. -/
theorem readPayload_agrees (src : Source) (cap : Nat) (out : FrameOut) (size type : UInt32)
    (small : type.toNat < 128 ^ 2) :
    Agrees cap src out (readPayload src cap out size type)
      (parsePayload cap src.ending size.toNat type.toNat src.bytes) := by
  have notLarge : ¬ (0xffff : UInt32) < type := by
    intro large
    have above : 0xffff < type.toNat := large
    omega
  unfold readPayload parsePayload
  simp only [notLarge, if_false]
  by_cases tooLarge : cap < size.toNat
  · simp only [tooLarge, if_true]
    exact agrees_error (by decide) rfl rfl
  · simp only [tooLarge, if_false]
    obtain ⟨after, read, reads⟩ := readExact_spec src size.toNat
    have kept : ∀ j, cap ≤ j → out.payloadBuf.store 0 (src.bytes.take size.toNat) j =
        out.payloadBuf j := by
      intro j beyond
      apply Memory.store_beyond
      simp only [List.length_take]
      omega
    rw [read]
    by_cases short : src.bytes.length < size.toNat
    · -- the stream ends inside the payload; what there was of it is stored
      simp only [show ¬ size.toNat ≤ src.bytes.length by omega, short, if_true, if_false]
      have none : after.bytes = [] := by
        rw [reads.bytes]
        exact List.drop_eq_nil_of_le (by omega)
      have failed := ofEnding_ne_ok src.ending
      cases result : ofEnding src.ending with
      | ok => exact absurd result failed
      | eof | socketError | badIndicator | varintTooLong | messageTooLarge =>
          exact ⟨⟨rfl, by simp, rfl, rfl⟩, none, reads.ending, kept⟩
    · have lengthIs : (src.bytes.take size.toNat).length = size.toNat := by
        simp only [List.length_take]
        omega
      simp only [show size.toNat ≤ src.bytes.length by omega, short, if_true, if_false]
      refine ⟨⟨rfl, ?_, lengthIs.symm, Memory.load_store out.payloadBuf 0 _⟩, reads.bytes, reads.ending, kept⟩
      apply UInt16.toNat_inj.mp
      rw [UInt32.toNat_toUInt16, UInt16.toNat_ofNat']

/-- Stage by stage, `read_frame` does what the parser does. -/
theorem readFrame_agrees (src : Source) (cap : Nat) (out : FrameOut) :
    Agrees cap src out (readFrame src cap out) (parseFrame cap src.ending src.bytes) := by
  unfold readFrame parseFrame
  rcases readExact_one src with ⟨indicator, afterIndicator, src₁, here, read, bytes₁, ending₁⟩ |
    ⟨src₁, here, read, bytes₁, ending₁⟩
  swap
  · rw [here, read]
    have failed := ofEnding_ne_ok src.ending
    cases result : ofEnding src.ending with
    | ok => exact absurd result failed
    | eof | socketError | badIndicator | varintTooLong | messageTooLarge =>
        exact agrees_error (by simp) bytes₁ ending₁
  rw [here, read]
  simp only [List.headD_cons]
  by_cases isZero : indicator = 0x00
  swap
  · simp only [ne_eq, isZero, not_false_eq_true, if_true]
    exact agrees_error (by decide) bytes₁ ending₁
  simp only [ne_eq, isZero, not_true_eq_false, if_false]
  -- the size
  obtain ⟨scanned₂, ending₂⟩ := readVarintStreaming_spec src₁ 3 (by decide)
  rw [bytes₁] at scanned₂
  rw [ending₁] at ending₂
  generalize readVarintStreaming src₁ 3 = r₂ at scanned₂ ending₂ ⊢
  obtain ⟨e₂, src₂⟩ := r₂
  cases scan₂ : Varint.scan 3 afterIndicator with
  | short =>
      rw [scan₂] at scanned₂
      obtain ⟨rfl, bytes₂⟩ := scanned₂
      rw [ending₁]
      exact agrees_error (ofEnding_ne_ok _) bytes₂ ending₂
  | tooLong rest =>
      rw [scan₂] at scanned₂
      obtain ⟨rfl, bytes₂⟩ := scanned₂
      exact agrees_error (by decide) bytes₂ ending₂
  | done size afterSize =>
      rw [scan₂] at scanned₂
      obtain ⟨⟨size', rfl, sizeIs⟩, bytes₂⟩ := scanned₂
      simp only [Nat.zero_add, Nat.pow_zero, Nat.one_mul] at sizeIs bytes₂ ending₂ ⊢
      -- the type
      obtain ⟨scanned₃, ending₃⟩ := readVarintStreaming_spec src₂ 2 (by decide)
      rw [bytes₂] at scanned₃
      rw [ending₂] at ending₃
      generalize readVarintStreaming src₂ 2 = r₃ at scanned₃ ending₃ ⊢
      obtain ⟨e₃, src₃⟩ := r₃
      cases scan₃ : Varint.scan 2 afterSize with
      | short =>
          rw [scan₃] at scanned₃
          obtain ⟨rfl, bytes₃⟩ := scanned₃
          rw [ending₂]
          exact agrees_error (ofEnding_ne_ok _) bytes₃ ending₃
      | tooLong rest =>
          rw [scan₃] at scanned₃
          obtain ⟨rfl, bytes₃⟩ := scanned₃
          exact agrees_error (by decide) bytes₃ ending₃
      | done type afterType =>
          rw [scan₃] at scanned₃
          obtain ⟨⟨type', rfl, typeIs⟩, bytes₃⟩ := scanned₃
          simp only [Nat.zero_add, Nat.pow_zero, Nat.one_mul] at typeIs bytes₃ ending₃ ⊢
          have payload := readPayload_agrees src₃ cap out size' type'
            (typeIs ▸ Varint.scan_lt scan₃)
          rw [sizeIs, typeIs, bytes₃, ending₃] at payload
          exact ⟨payload.reports, payload.rest, payload.ending.trans ending₃, payload.frame⟩

/-! ## Which strings hold a frame -/

theorem parsePayload_ok_iff {cap size type : Nat} {ending : Ending} {bytes rest : List UInt8}
    {m : Message} (small : type < 128 ^ 2) :
    parsePayload cap ending size type bytes = ⟨.ok m, rest⟩ ↔
      bytes = m.payload ++ rest ∧ m.payload.length = size ∧ m.type.toNat = type ∧
        m.payload.length ≤ cap := by
  have typeIs : (UInt16.ofNat type).toNat = type := by
    rw [UInt16.toNat_ofNat']
    omega
  unfold parsePayload
  constructor
  · intro parsed
    split at parsed
    · cases parsed
    · split at parsed
      · cases parsed
      · cases parsed
        refine ⟨(List.take_append_drop size bytes).symm, ?_, typeIs, ?_⟩
        · simp only [List.length_take]
          omega
        · simp only [List.length_take]
          omega
  · rintro ⟨rfl, rfl, isType, fits⟩
    have sameType : UInt16.ofNat type = m.type := by
      apply UInt16.toNat_inj.mp
      rw [typeIs, isType]
    rw [if_neg (by omega), if_neg (by simp), List.take_left, List.drop_left, sameType]

/-- The parser accepts exactly the strings that start with a frame. -/
theorem parseFrame_ok_iff {cap : Nat} {ending : Ending} {bytes rest : List UInt8} {m : Message} :
    parseFrame cap ending bytes = ⟨.ok m, rest⟩ ↔
      ∃ sizeBytes typeBytes,
        bytes = 0x00 :: (sizeBytes ++ (typeBytes ++ (m.payload ++ rest))) ∧
        Varint.IsVarint 3 sizeBytes m.payload.length ∧
        Varint.IsVarint 2 typeBytes m.type.toNat ∧ m.payload.length ≤ cap := by
  constructor
  · intro parsed
    unfold parseFrame at parsed
    cases bytes with
    | nil => cases parsed
    | cons indicator afterIndicator =>
        simp only at parsed
        split at parsed
        · cases parsed
        · rename_i isZero
          rw [ne_eq, not_not] at isZero
          split at parsed
          · cases parsed
          · cases parsed
          · rename_i size afterSize scan₂
            split at parsed
            · cases parsed
            · cases parsed
            · rename_i type afterType scan₃
              obtain ⟨rfl, rfl, rfl, fits⟩ := (parsePayload_ok_iff (Varint.scan_lt scan₃)).mp parsed
              obtain ⟨sizeBytes, rfl, isSize⟩ := Varint.scan_done_iff.mp scan₂
              obtain ⟨typeBytes, rfl, isType⟩ := Varint.scan_done_iff.mp scan₃
              exact ⟨sizeBytes, typeBytes, by rw [isZero], isSize, isType, fits⟩
  · rintro ⟨sizeBytes, typeBytes, rfl, isSize, isType, fits⟩
    have scan₂ := Varint.scan_done_iff.mpr
      ⟨sizeBytes, (rfl : sizeBytes ++ (typeBytes ++ (m.payload ++ rest)) = _), isSize⟩
    have scan₃ := Varint.scan_done_iff.mpr
      ⟨typeBytes, (rfl : typeBytes ++ (m.payload ++ rest) = _), isType⟩
    simp only [parseFrame, ne_eq, not_true_eq_false, if_false, scan₂, scan₃]
    exact (parsePayload_ok_iff (Varint.scan_lt scan₃)).mpr ⟨rfl, rfl, rfl, fits⟩

/-- **`read_frame` is the reference parser.** Whatever the source and however it splits
its bytes: the message or the error of the first failing stage, the same bytes
left unread, outputs untouched on error, nothing stored beyond the capacity. And the
parser accepts exactly the strings that start with a frame. -/
theorem read_frame_parses (src : Source) (cap : Nat) (out : FrameOut) :
    Reports out (readFrame src cap out).2.1 (readFrame src cap out).1
      (parseFrame cap src.ending src.bytes).result ∧
    (readFrame src cap out).2.2.bytes = (parseFrame cap src.ending src.bytes).rest ∧
    (∀ j, cap ≤ j → (readFrame src cap out).2.1.payloadBuf j = out.payloadBuf j) ∧
    ∀ m rest, parseFrame cap src.ending src.bytes = ⟨.ok m, rest⟩ ↔
      ∃ sizeBytes typeBytes,
        src.bytes = 0x00 :: (sizeBytes ++ (typeBytes ++ (m.payload ++ rest))) ∧
        Varint.IsVarint 3 sizeBytes m.payload.length ∧
        Varint.IsVarint 2 typeBytes m.type.toNat ∧ m.payload.length ≤ cap := by
  have agrees := readFrame_agrees src cap out
  exact ⟨agrees.reports, agrees.rest, agrees.frame, fun _ _ => parseFrame_ok_iff⟩

/-! ## Round trip -/

/-- `n` calls of `read_frame` in a row, up to the first that fails: the messages their
caller sees. -/
def readFrames (cap : Nat) : Nat → Source → FrameOut → List Message × Source
  | 0, src, _ => ([], src)
  | n + 1, src, out =>
      match readFrame src cap out with
      | (.ok, out, src) =>
          let (ms, src) := readFrames cap n src out
          (⟨out.typeOut, out.payloadBuf.load 0 out.payloadLenOut⟩ :: ms, src)
      | (_, _, src) => ([], src)

/-- What a sender may frame and a reader of this capacity takes back. -/
def Message.Fits (cap : Nat) (m : Message) : Prop :=
  m.type.toNat < 2 ^ 14 ∧ m.payload.length ≤ 2048 ∧ m.payload.length ≤ cap

instance (cap : Nat) (m : Message) : Decidable (m.Fits cap) :=
  inferInstanceAs (Decidable (_ ∧ _ ∧ _))

theorem parseFrame_frame {cap : Nat} {m : Message} (fits : m.Fits cap) (staging : Memory)
    (ending : Ending) (rest : List UInt8) :
    parseFrame cap ending (frame staging m ++ rest) = ⟨.ok m, rest⟩ := by
  obtain ⟨type, short, capped⟩ := fits
  rw [parseFrame_ok_iff, frame_eq staging m short]
  refine ⟨Varint.encode m.payload.length, Varint.encode m.type.toNat, ?_, ?_, ?_, capped⟩
  · simp [header]
  · exact Varint.isVarint_encode ((Varint.size_le_iff _ 2).mpr (by omega))
  · exact Varint.isVarint_encode ((Varint.size_le_iff _ 1).mpr (by omega))

/-- One frame of a stream is read back, and the rest of the stream is next. -/
theorem readFrame_frame {cap : Nat} {m : Message} (fits : m.Fits cap) {staging : Memory}
    {src : Source} {rest : List UInt8} (stream : src.bytes = frame staging m ++ rest)
    (out : FrameOut) :
    ∃ out' src', readFrame src cap out = (.ok, out', src') ∧ src'.bytes = rest ∧
      (⟨out'.typeOut, out'.payloadBuf.load 0 out'.payloadLenOut⟩ : Message) = m := by
  have agrees := readFrame_agrees src cap out
  rw [stream, parseFrame_frame fits] at agrees
  obtain ⟨⟨isOk, type, length, payload⟩, restIs, -, -⟩ := agrees
  refine ⟨(readFrame src cap out).2.1, (readFrame src cap out).2.2, ?_, restIs, ?_⟩
  · rw [← isOk]
  · rw [type, length, payload]

theorem readFrames_frames {cap : Nat} (sent : List (Memory × Message))
    (fits : ∀ s ∈ sent, s.2.Fits cap) (src : Source) (rest : List UInt8)
    (stream : src.bytes = (sent.flatMap fun s => frame s.1 s.2) ++ rest) (out : FrameOut) :
    (readFrames cap sent.length src out).1 = sent.map Prod.snd ∧
      (readFrames cap sent.length src out).2.bytes = rest := by
  induction sent generalizing src out with
  | nil =>
      rw [List.flatMap_nil, List.nil_append] at stream
      exact ⟨rfl, stream⟩
  | cons first sent ih =>
      rw [List.flatMap_cons, List.append_assoc] at stream
      obtain ⟨out', src', read, restIs, message⟩ :=
        readFrame_frame (fits first (List.mem_cons_self ..)) stream out
      obtain ⟨messages, left_⟩ :=
        ih (fun s inside => fits s (List.mem_cons_of_mem _ inside)) src' restIs out'
      simp only [List.length_cons, readFrames, read, List.map_cons]
      exact ⟨by rw [message, messages], left_⟩

/-- A type of three varint bytes is over the budget of two. -/
theorem parseFrame_largeType (cap : Nat) {m : Message} (large : 2 ^ 14 ≤ m.type.toNat)
    (short : m.payload.length ≤ 2048) (staging : Memory) (ending : Ending) (rest : List UInt8) :
    (parseFrame cap ending (frame staging m ++ rest)).result = .error .varintTooLong := by
  have sizeRoom := (Varint.size_le_iff m.payload.length 2).mpr (by omega)
  have typeOver : 2 < Varint.size m.type.toNat := by
    have atMost := Varint.size_le_iff m.type.toNat 1
    omega
  rw [frame_eq staging m short, header, List.append_assoc, List.cons_append, List.append_assoc]
  simp only [parseFrame, ne_eq, not_true_eq_false, if_false, Varint.scan_encode _ 3 _ sizeRoom,
    Varint.scan_encode_tooLong _ 2 _ typeOver]

/-- **Framing round trip.** Any sequence of messages that fit, framed one after the other
by `prepend_header` and followed by anything, is read back by as many calls of
`read_frame`, which leave what follows. The header of every message of at most 2048
bytes fits in front of its payload, and a type of `2 ^ 14` or more is refused. -/
theorem frames_round_trip :
    (∀ (cap : Nat) (sent : List (Memory × Message)) (src : Source) (rest : List UInt8)
      (out : FrameOut), (∀ s ∈ sent, s.2.Fits cap) →
      src.bytes = (sent.flatMap fun s => frame s.1 s.2) ++ rest →
      (readFrames cap sent.length src out).1 = sent.map Prod.snd ∧
        (readFrames cap sent.length src out).2.bytes = rest) ∧
    (∀ (buf : Memory) (msgType : UInt16) (payloadLen : Nat), payloadLen ≤ 2048 →
      (prependHeader buf msgType payloadLen).1 +
        (1 + varintLen (UInt32.ofNat payloadLen) + varintLen msgType.toUInt32) = maxHeaderLen) ∧
    (∀ (cap : Nat) (staging : Memory) (m : Message) (src : Source) (rest : List UInt8)
      (out : FrameOut), 2 ^ 14 ≤ m.type.toNat → m.payload.length ≤ 2048 →
      src.bytes = frame staging m ++ rest → (readFrame src cap out).1 = .varintTooLong) := by
  refine ⟨?_, ?_, ?_⟩
  · intro cap sent src rest out fits stream
    exact readFrames_frames sent fits src rest stream out
  · intro buf msgType payloadLen short
    have spec := (prependHeader_spec buf msgType short).1
    have lenNat : (UInt32.ofNat payloadLen).toNat = payloadLen := by
      rw [UInt32.toNat_ofNat']
      omega
    rw [length_header] at spec
    rw [varintLen_eq, varintLen_eq, lenNat, UInt16.toNat_toUInt32]
    exact spec
  · intro cap staging m src rest out large short stream
    have agrees := readFrame_agrees src cap out
    have tooLong := parseFrame_largeType cap large short staging src.ending rest
    have reports := agrees.reports
    rw [stream, tooLong] at reports
    exact reports.1

/-- Two messages, one of them empty, delivered byte by byte and followed by a stray byte;
the header of the longest message; and the first type that is refused. -/
theorem frames_round_trip_bytewise :
    (readFrames 16 2 ⟨frame (fun _ => 255) ⟨300, [1, 2, 3]⟩ ++ (frame (fun _ => 7) ⟨8, []⟩ ++ [42]),
        .eof, fun _ => 0, 0⟩ ⟨fun _ => 0, 0, 0⟩).1 = [⟨300, [1, 2, 3]⟩, ⟨8, []⟩] ∧
    (prependHeader (fun _ => 0) 65535 2048).1 +
      (1 + varintLen (UInt32.ofNat 2048) + varintLen (65535 : UInt16).toUInt32) = maxHeaderLen ∧
    (readFrame ⟨frame (fun _ => 0) ⟨16384, [1]⟩, .eof, fun _ => 5, 0⟩ 16 ⟨fun _ => 0, 0, 0⟩).1 =
      .varintTooLong := by
  have fits : ∀ s ∈ [((fun _ => 255 : Memory), (⟨300, [1, 2, 3]⟩ : Message)),
      ((fun _ => 7 : Memory), (⟨8, []⟩ : Message))], s.2.Fits 16 := by
    intro s inside
    simp only [List.mem_cons, List.not_mem_nil, or_false] at inside
    rcases inside with rfl | rfl <;> decide
  refine ⟨?_, ?_, ?_⟩
  · exact (frames_round_trip.1 16 _ _ [42] _ fits (by simp)).1
  · exact frames_round_trip.2.1 _ 65535 2048 (by decide)
  · exact frames_round_trip.2.2 16 (fun _ => 0) ⟨16384, [1]⟩ _ [] _ (by decide) (by decide) (by simp)

end NimbleProxy.Api.FrameCodec
