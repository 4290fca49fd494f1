/-
# Dashboard.Fragmentation -- the notifications of a response, byte by byte

`ble_httpd.cpp`, `send_response`, and `index.html`, `onNotify`. A notification is a byte
of flags, the byte of the request, and up to 242 bytes of the payload. Each is tried six
times; when all fail, the rest of the response is given up.

What `notify` answers is an argument, for each fragment and each attempt. The frames of
`Dashboard.BleFetch` are what the browser reads in these bytes (`receive_encode`): what the
device has sent is what they are up to the first that fails (`sendLoop_eq`), and what the
browser makes of all of them is the payload (`foldl_fragments`).
-/
import Mathlib.Data.List.TakeWhile
import NimbleProxy.Dashboard.BleFetch

namespace NimbleProxy.Dashboard.Fragmentation

open BleFetch

set_option autoImplicit false

/-! ## The device -/

/-- `FRAME_FIN`, in `index.html` `FIN`. -/
def frameFin : UInt8 := 0x01

/-- `FRAME_ERR`, in `index.html` `ERR`. -/
def frameErr : UInt8 := 0x02

/-- What `frame` holds. -/
def encode (last isError : Bool) (reqId : UInt8) (bytes : List UInt8) : List UInt8 :=
  ((if last then frameFin else 0) ||| (if isError then frameErr else 0)) :: reqId :: bytes

/-- The retries of one notification: `ok`. -/
def attempts (notify : Nat → Bool) : Bool := (List.range 6).any notify

/-- The loop of `send_response` from a fragment on, with the rest of the payload. -/
def sendLoop (notify : Nat → Nat → Bool) (reqId : UInt8) (isError : Bool) (fragment : Nat)
    (rest : List UInt8) : List (List UInt8) :=
  if attempts (notify fragment) then
    if rest.length ≤ maxFrag then [encode true isError reqId rest]
    else
      encode false isError reqId (rest.take maxFrag) ::
        sendLoop notify reqId isError (fragment + 1) (rest.drop maxFrag)
  else []
termination_by rest.length
decreasing_by
  simp only [maxFrag, List.length_drop] at *
  omega

/-- `send_response`: what goes out. There is no characteristic before `activate`; of one that is
there, what `notify` answers for each fragment and attempt. -/
def sendResponse (respChr : Option (Nat → Nat → Bool)) (reqId : UInt8) (payload : List UInt8)
    (isError : Bool) : List (List UInt8) :=
  match respChr with
  | none => []
  | some notify => sendLoop notify reqId isError 0 payload

/-! ## The browser -/

/-- `v[0] & FIN`. -/
def isFin (v : List UInt8) : Bool := v.headD 0 &&& frameFin ≠ 0

/-- `v[0] & ERR`. -/
def isErr (v : List UInt8) : Bool := v.headD 0 &&& frameErr ≠ 0

/-- `onNotify`, from the bytes on. -/
def receive (s : State) (v : List UInt8) : State :=
  if v.length < 2 then s
  else onNotify s ⟨isFin v, isErr v, (v.getD 1 0).toNat, v.drop 2⟩

/-- The promise under this byte, if one waits there, is settled with a text. -/
def answered (s : State) (id : Nat) (text : List UInt8) (rejected : Bool) : State :=
  match s.pending id with
  | none => s
  | some request =>
      { s with
        pending := Function.update s.pending id none
        settled := request :: s.settled
        answers := s.answers ++ [⟨request, text, rejected⟩] }

section Bytes

variable (last isError : Bool) (reqId : UInt8) (bytes : List UInt8)

theorem isFin_encode : isFin (encode last isError reqId bytes) = last := by
  have flag : ∀ last isError : Bool, decide (((if last then frameFin else 0) |||
      (if isError then frameErr else 0)) &&& frameFin ≠ 0) = last := by decide
  exact flag last isError

theorem isErr_encode : isErr (encode last isError reqId bytes) = isError := by
  have flag : ∀ last isError : Bool, decide (((if last then frameFin else 0) |||
      (if isError then frameErr else 0)) &&& frameErr ≠ 0) = isError := by decide
  exact flag last isError

theorem receive_encode (s : State) :
    receive s (encode last isError reqId bytes) = onNotify s ⟨last, isError, reqId.toNat, bytes⟩ := by
  rw [receive, isFin_encode, isErr_encode]
  rfl

end Bytes

/-! ## What is sent -/

section Sending

variable {notify : Nat → Nat → Bool} {reqId : UInt8} {isError : Bool} {payload : List UInt8}

/-- A fragment as it is sent. -/
def wire (reqId : UInt8) (frame : Frame) : List UInt8 := encode frame.fin frame.err reqId frame.bytes

/-- **The loop**: the fragments up to the first that cannot be sent. -/
theorem sendLoop_eq (fuel fragment : Nat) (rest : List UInt8) (enough : rest.length ≤ fuel) :
    sendLoop notify reqId isError fragment rest =
      ((((sendFrom reqId.toNat isError fuel rest).zipIdx fragment).takeWhile
        fun p => attempts (notify p.2)).map fun p => wire reqId p.1) := by
  induction fuel generalizing fragment rest with
  | zero =>
      rw [List.length_eq_zero_iff.mp (Nat.le_zero.mp enough), sendLoop, sendFrom]
      by_cases ok : attempts (notify fragment) <;> simp [ok, wire]
  | succ fuel ih =>
      rw [sendLoop, sendFrom]
      by_cases fits : rest.length ≤ maxFrag
      · by_cases ok : attempts (notify fragment) <;> simp [ok, fits, wire]
      · have later := ih (fragment + 1) (rest.drop maxFrag) (by
          rw [List.length_drop, maxFrag]
          omega)
        by_cases ok : attempts (notify fragment)
        · simp [ok, fits, later, wire]
        · simp [ok, fits]

/-- All the bytes of a response, if every notification can be sent. -/
def complete (reqId : UInt8) (payload : List UInt8) (isError : Bool) : List (List UInt8) :=
  sendResponse (some fun _ _ => true) reqId payload isError

theorem sendResponse_eq :
    sendResponse (some notify) reqId payload isError =
      ((((fragments reqId.toNat isError payload).zipIdx).takeWhile
        fun p => attempts (notify p.2)).map fun p => wire reqId p.1) :=
  sendLoop_eq payload.length 0 payload (Nat.le_refl _)

theorem map_wire_zipIdx (frames : List Frame) :
    (frames.zipIdx.map fun p => wire reqId p.1) = frames.map (wire reqId) := by
  have fst := congrArg (List.map (wire reqId)) (List.zipIdx_map_fst 0 frames)
  rwa [List.map_map] at fst

theorem complete_eq :
    complete reqId payload isError = (fragments reqId.toNat isError payload).map (wire reqId) := by
  have all : attempts (fun _ => true) = true := rfl
  rw [complete, sendResponse_eq, List.takeWhile_eq_self_iff.mpr fun p _ => all, map_wire_zipIdx]

/-- Every notification can be sent. -/
theorem sendResponse_of_all
    (delivers : ∀ k < (complete reqId payload isError).length, ∃ attempt < 6, notify k attempt = true) :
    sendResponse (some notify) reqId payload isError = complete reqId payload isError := by
  rw [complete_eq, List.length_map] at delivers
  rw [sendResponse_eq, complete_eq, List.takeWhile_eq_self_iff.mpr, map_wire_zipIdx]
  rintro ⟨frame, k⟩ mem
  obtain ⟨attempt, within, ok⟩ := delivers k (List.snd_lt_of_mem_zipIdx mem)
  exact List.any_eq_true.mpr ⟨attempt, List.mem_range.mpr within, ok⟩

/-- One cannot: what was sent before is less than the whole. -/
theorem sendResponse_of_failed {k : Nat} (within : k < (complete reqId payload isError).length)
    (fails : ∀ attempt < 6, notify k attempt = false) :
    ∃ before after, after ≠ [] ∧ fragments reqId.toNat isError payload = before ++ after ∧
      sendResponse (some notify) reqId payload isError = before.map (wire reqId) := by
  have failed : attempts (notify k) = false :=
    List.any_eq_false.mpr fun attempt mem => by
      rw [fails attempt (List.mem_range.mp mem)]
      decide
  rw [complete_eq, List.length_map] at within
  rw [sendResponse_eq]
  generalize fragments reqId.toNat isError payload = frames at within ⊢
  have split := List.takeWhile_append_dropWhile (p := fun p : Frame × Nat => attempts (notify p.2))
    (l := frames.zipIdx)
  generalize sent : frames.zipIdx.takeWhile (fun p => attempts (notify p.2)) = front at split ⊢
  generalize left : frames.zipIdx.dropWhile (fun p => attempts (notify p.2)) = back at split
  have whole := List.zipIdx_map_fst 0 frames
  rw [← split, List.map_append] at whole
  refine ⟨front.map Prod.fst, back.map Prod.fst, ?_, whole.symm, by rw [List.map_map]; rfl⟩
  rintro empty
  rw [List.map_eq_nil_iff.mp empty, List.append_nil] at split
  have here : (frames[k], k) ∈ front := by
    rw [split]
    exact List.mk_mem_zipIdx_iff_getElem?.mpr (List.getElem?_eq_getElem within)
  rw [← sent] at here
  have ok := List.mem_takeWhile_imp here
  rw [failed] at ok
  cases ok

end Sending

/-! ## What is put together -/

section Together

variable {id : Nat} {err : Bool} {payload : List UInt8} {frames : List Frame}

/-- Fragments that are not the last are collected. -/
theorem foldl_more (more : ∀ frame ∈ frames, frame.id = id ∧ frame.fin = false) (s : State) :
    ∃ held, held.getD [] = (s.chunks id).getD [] ++ frames.map Frame.bytes ∧
      frames.foldl onNotify s = { s with chunks := Function.update s.chunks id held } := by
  induction frames generalizing s with
  | nil => exact ⟨s.chunks id, (List.append_nil _).symm, by rw [Function.update_eq_self]; rfl⟩
  | cons frame rest ih =>
      rw [List.forall_mem_cons] at more
      obtain ⟨held, parts, rest⟩ := ih more.2
        { s with chunks := Function.update s.chunks id (some ((s.chunks id).getD [] ++ [frame.bytes])) }
      dsimp only at parts
      rw [Function.update_self] at parts
      refine ⟨held, by simp [parts], ?_⟩
      rw [List.foldl_cons, onNotify_of_more more.1.2, more.1.1, rest, Function.update_idem]

/-- What more follows has no mark. -/
theorem fin_eq_false (whole : Whole id err payload frames) {before after : List Frame}
    (split : frames = before ++ after) (more : after ≠ []) : ∀ frame ∈ before, frame.fin = false := by
  intro frame mem
  obtain ⟨front, back, here⟩ := List.append_of_mem mem
  have fin := whole.fin_iff front frame (back ++ after) (by simp [split, here])
  simpa [more] using fin

/-- **A whole response**: the payload. -/
theorem foldl_whole (whole : Whole id err payload frames) (some_ : frames ≠ []) {s : State}
    (fresh : s.chunks id = none) : frames.foldl onNotify s = answered s id payload err := by
  have split := List.dropLast_concat_getLast some_
  generalize frames.dropLast = front at split
  generalize frames.getLast some_ = last at split
  subst split
  have fin : last.fin = true := (whole.fin_iff front last [] rfl).mpr rfl
  have same := whole.same last (by simp)
  have more : ∀ frame ∈ front, frame.id = id ∧ frame.fin = false := fun frame mem =>
    ⟨(whole.same frame (List.mem_append_left _ mem)).1, fin_eq_false whole rfl (by simp) frame mem⟩
  obtain ⟨held, parts, collected⟩ := foldl_more more s
  have merged : (held.getD [] ++ [last.bytes]).flatten = payload := by
    rw [parts, fresh, ← whole.bytes]
    simp
  have none : Function.update s.chunks id none = s.chunks := by
    rw [← fresh, Function.update_eq_self]
  rw [List.foldl_append, collected, List.foldl_cons, List.foldl_nil, onNotify]
  simp only [fin, same.1, same.2, Function.update_self, Function.update_idem, none, merged]
  rw [answered]
  rfl

theorem foldl_wire (whole : Whole id err payload frames) {reqId : UInt8} (byte : reqId.toNat = id)
    (s : State) : (frames.map (wire reqId)).foldl receive s = frames.foldl onNotify s := by
  have same := whole.same
  clear whole
  induction frames generalizing s with
  | nil => rfl
  | cons frame rest ih =>
      rw [List.forall_mem_cons] at same
      have own : (⟨frame.fin, frame.err, reqId.toNat, frame.bytes⟩ : Frame) = frame := by
        rw [byte, ← same.1.1]
      rw [List.map_cons, List.foldl_cons, List.foldl_cons, wire, receive_encode, own]
      exact ih (onNotify s frame) same.2

end Together

/-- What every notification of a response is, sent to the end or not. -/
structure Carries (reqId : UInt8) (isError : Bool) (v : List UInt8) : Prop where
  fits : v.length ≤ 244
  reqId : v[1]? = some reqId
  isErr : isErr v = isError

theorem carries_wire {reqId : UInt8} {isError : Bool} {payload : List UInt8} {frame : Frame}
    (mem : frame ∈ fragments reqId.toNat isError payload) :
    Carries reqId isError (wire reqId frame) := by
  have short := length_fragments_le frame mem
  have same := (whole_fragments reqId.toNat isError payload).same frame mem
  refine ⟨?_, rfl, ?_⟩
  · simp only [wire, encode, List.length_cons]
    exact Nat.add_le_add_right short 2
  · rw [wire, isErr_encode, same.2]

/-- **A response in notifications.** If each can be sent within its six attempts, they are up to
244 bytes long, have the byte of the request and the flag, the mark is on the last and on no other,
and the browser, with nothing collected under the byte, has the payload from them and nothing else
has changed. If one cannot be sent, those before it are out, less than all of them, without the
mark. -/
theorem response_round_trip (notify : Nat → Nat → Bool) (reqId : UInt8) (payload : List UInt8)
    (isError : Bool) :
    let whole := complete reqId payload isError
    let sent := sendResponse (some notify) reqId payload isError
    ((∀ k < whole.length, ∃ attempt < 6, notify k attempt = true) →
      (∀ v ∈ sent, Carries reqId isError v) ∧
      (∃ front last, sent = front ++ [last] ∧ isFin last = true ∧ ∀ v ∈ front, isFin v = false) ∧
      ∀ s : State, s.chunks reqId.toNat = none →
        sent.foldl receive s = answered s reqId.toNat payload isError) ∧
    ((∃ k < whole.length, ∀ attempt < 6, notify k attempt = false) →
      sent <+: whole ∧ sent ≠ whole ∧ ∀ v ∈ sent, Carries reqId isError v ∧ isFin v = false) := by
  dsimp only
  have parts := whole_fragments reqId.toNat isError payload
  refine ⟨fun delivers => ?_, fun ⟨k, within, fails⟩ => ?_⟩
  · have some_ : fragments reqId.toNat isError payload ≠ [] := (whole_sendFrom _ _ _ _).2
    rw [sendResponse_of_all delivers, complete_eq]
    refine ⟨fun v mem => ?_, ?_, fun s fresh => ?_⟩
    · obtain ⟨frame, own, rfl⟩ := List.mem_map.mp mem
      exact carries_wire own
    · have split := List.dropLast_concat_getLast some_
      have fin := (parts.fin_iff _ _ [] split.symm).mpr rfl
      rw [← split, List.map_append]
      refine ⟨_, wire reqId _, rfl, by rw [wire, isFin_encode, fin], fun v mem => ?_⟩
      obtain ⟨frame, own, rfl⟩ := List.mem_map.mp mem
      rw [wire, isFin_encode]
      exact fin_eq_false parts split.symm (List.cons_ne_nil _ _) frame own
    · rw [foldl_wire parts rfl, foldl_whole parts some_ fresh]
  · obtain ⟨before, after, more, split, sent⟩ := sendResponse_of_failed within fails
    rw [sent, complete_eq, split, List.map_append]
    refine ⟨List.prefix_append _ _, fun all => ?_, fun v mem => ?_⟩
    · rw [List.self_eq_append_right, List.map_eq_nil_iff] at all
      exact more all
    · obtain ⟨frame, own, rfl⟩ := List.mem_map.mp mem
      refine ⟨carries_wire (split ▸ List.mem_append_left _ own), ?_⟩
      rw [wire, isFin_encode]
      exact fin_eq_false parts split more frame own

/-- Two fragments of 242 bytes, each sent at the sixth attempt. -/
theorem response_round_trip_retried :
    ∀ s : State, s.chunks 7 = none →
      (sendResponse (some fun _ attempt => attempt == 5) 7 (List.replicate 484 48) false).foldl
          receive s = answered s 7 (List.replicate 484 48) false :=
  ((response_round_trip (fun _ attempt => attempt == 5) 7 (List.replicate 484 48) false).1
    fun _ _ => ⟨5, by decide, rfl⟩).2.2

end NimbleProxy.Dashboard.Fragmentation
