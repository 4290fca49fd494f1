/-
# Api.WsBridge -- API frames through the WebSocket bridge

`ws_proxy.cpp`: a binary message of the browser goes to `api_server` over a loopback
socket, byte for byte. The bridge has a cap of its own, on the whole message; `api_server`
caps the payload, which a header of three to six bytes precedes. The two caps are the same
number, so a frame with a payload near its cap is one that `api_server` accepts and the
bridge does not (`largest_payload_closes`).

A frame that `api_server` accepts is one that `read_frame` takes in full, however the
socket splits it. What `httpd_ws_recv_frame` gives is an argument (`Inbound`); control
frames do not get here. A handler that does not return `ESP_OK` loses its session. The
upgrade, which sets the session up, and the pump, which has the other direction, are left
out.
-/
import NimbleProxy.Api.FrameReading
import NimbleProxy.Api.Outgoing

namespace NimbleProxy.Api.WsBridge

open NimbleProxy.Theory
open NimbleProxy.Api.FrameCodec
open NimbleProxy.Api.Outgoing (maxMessageSize)

set_option autoImplicit false

/-! ## The bridge -/

/-- `WS_RX_MAX`. -/
def wsRxMax : Nat := maxMessageSize

/-- What the two calls of `httpd_ws_recv_frame` give. -/
inductive Inbound
  | message (bytes : List UInt8)
  /-- the first call fails -/
  | headFails
  /-- the second one fails, in a message of this length -/
  | bodyFails (len : Nat)

structure Session where
  /-- the socket into `api_server` -/
  loop : Sink
  closed : Bool := false

/-- `forward_to_loopback`. -/
def forwardToLoopback (loop : Sink) (data : List UInt8) : Bool × Sink := loop.sendAll data

/-- `ws_handler` for a data frame; whether it returns `ESP_OK`. -/
def wsHandler (s : Session) : Inbound → Bool × Session
  | .headFails => (false, s)
  | .bodyFails len => if len = 0 then (true, s) else (false, s)
  | .message bytes =>
      if bytes.length = 0 then (true, s)
      else if wsRxMax < bytes.length then (false, s)
      else
        let (ok, loop) := forwardToLoopback s.loop bytes
        (ok, { s with loop })

/-- What httpd makes of the answer. -/
def receive (s : Session) (inbound : Inbound) : Session :=
  if s.closed then s
  else
    let (ok, s) := wsHandler s inbound
    { s with closed := !ok }

/-- A session that gets these messages. -/
def bridge (accept : Nat → Option Nat) (messages : List (List UInt8)) : Session :=
  (messages.map Inbound.message).foldl receive { loop := { accept } }

/-! ## Frames -/

/-- `read_frame` takes these bytes as one frame, with the capacity of `dispatch_one`. -/
def Accepted (bytes : List UInt8) : Prop :=
  ∀ (src : Source) (out : FrameOut), src.bytes = bytes →
    (readFrame src maxMessageSize out).1 = .ok ∧
      (readFrame src maxMessageSize out).2.2.bytes = []

/-- What a client may send over TCP. -/
structure ApiFrame where
  bytes : List UInt8
  accepted : Accepted bytes

theorem accepted_iff {bytes : List UInt8} :
    Accepted bytes ↔ ∃ m : Message, ∃ sizeBytes typeBytes,
      bytes = 0x00 :: (sizeBytes ++ (typeBytes ++ m.payload)) ∧
      Varint.IsVarint 3 sizeBytes m.payload.length ∧
      Varint.IsVarint 2 typeBytes m.type.toNat ∧ m.payload.length ≤ maxMessageSize := by
  constructor
  · intro accepted
    let src : Source := ⟨bytes, .eof, fun _ => 0, 0⟩
    let out : FrameOut := ⟨fun _ => 0, 0, 0⟩
    obtain ⟨ok, consumed⟩ := accepted src out rfl
    obtain ⟨reports, rest, -, -⟩ := readFrame_agrees src maxMessageSize out
    rw [consumed] at rest
    cases parsed : parseFrame maxMessageSize src.ending src.bytes with
    | mk result unread =>
        rw [parsed] at reports rest
        cases result with
        | error e => exact absurd ok reports.2.1
        | ok m =>
            subst rest
            have shape := parseFrame_ok_iff.mp parsed
            simp only [List.append_nil] at shape
            exact ⟨m, shape⟩
  · rintro ⟨m, sizeBytes, typeBytes, shape, isSize, isType, fits⟩ src out same
    have parsed : parseFrame maxMessageSize src.ending src.bytes = ⟨.ok m, []⟩ := by
      refine parseFrame_ok_iff.mpr ⟨sizeBytes, typeBytes, ?_, isSize, isType, fits⟩
      rw [same, shape, List.append_nil]
    obtain ⟨reports, rest, -, -⟩ := readFrame_agrees src maxMessageSize out
    rw [parsed] at reports rest
    exact ⟨reports.1, rest⟩

/-! ## Sessions -/

section Sessions

variable {s : Session} {accept : Nat → Option Nat}

theorem receive_closed (closed : s.closed = true) (messages : List (List UInt8)) :
    (messages.map Inbound.message).foldl receive s = s := by
  induction messages with
  | nil => rfl
  | cons bytes rest ih =>
      have stays : receive s (.message bytes) = s := by
        rw [receive, if_pos closed]
      rw [List.map_cons, List.foldl_cons, stays, ih]

/-- A message within the cap goes through. -/
theorem receive_fits (accepts : ∀ n, accept n ≠ none) (same : s.loop.accept = accept)
    (open_ : s.closed = false) {bytes : List UInt8} (fits : bytes.length ≤ wsRxMax) :
    (receive s (.message bytes)).closed = false ∧
      (receive s (.message bytes)).loop.accept = accept ∧
      (receive s (.message bytes)).loop.sent = s.loop.sent ++ bytes := by
  have cap : ¬ wsRxMax < bytes.length := by omega
  unfold receive wsHandler
  by_cases empty : bytes.length = 0
  · have nothing := List.length_eq_zero_iff.mp empty
    simp [open_, same, nothing]
  · obtain ⟨after, sent, kept, all⟩ := Sink.sendAll_of_accept accepts s.loop same bytes
    simp [open_, empty, cap, forwardToLoopback, sent, kept, all]

/-- A message over the cap closes the session. -/
theorem receive_tooLong {bytes : List UInt8} (long : wsRxMax < bytes.length) :
    (receive s (.message bytes)).closed = true := by
  unfold receive wsHandler
  cases closed : s.closed with
  | true => simp [closed]
  | false => simp [show bytes.length ≠ 0 by omega, long]

theorem foldl_fits (accepts : ∀ n, accept n ≠ none) (same : s.loop.accept = accept)
    (open_ : s.closed = false) {messages : List (List UInt8)}
    (fits : ∀ bytes ∈ messages, bytes.length ≤ wsRxMax) :
    ((messages.map Inbound.message).foldl receive s).closed = false ∧
      ((messages.map Inbound.message).foldl receive s).loop.sent =
        s.loop.sent ++ messages.flatten := by
  induction messages generalizing s with
  | nil => exact ⟨open_, (List.append_nil _).symm⟩
  | cons bytes rest ih =>
      obtain ⟨stillOpen, still, sent⟩ :=
        receive_fits accepts same open_ (fits bytes List.mem_cons_self)
      obtain ⟨closed, all⟩ := ih still stillOpen fun b mem => fits b (List.mem_cons_of_mem _ mem)
      rw [List.map_cons, List.foldl_cons, List.flatten_cons, ← List.append_assoc, ← sent]
      exact ⟨closed, all⟩

theorem foldl_tooLong {messages : List (List UInt8)}
    (long : ∃ bytes ∈ messages, wsRxMax < bytes.length) :
    ((messages.map Inbound.message).foldl receive s).closed = true := by
  induction messages generalizing s with
  | nil =>
      obtain ⟨bytes, mem, _⟩ := long
      cases mem
  | cons first rest ih =>
      rw [List.map_cons, List.foldl_cons]
      by_cases here : wsRxMax < first.length
      · have closed : (receive s (.message first)).closed = true := receive_tooLong here
        rw [receive_closed closed]
        exact closed
      · obtain ⟨bytes, mem, exceeds⟩ := long
        rcases List.mem_cons.mp mem with rfl | later
        · exact absurd exceeds here
        · exact ih ⟨bytes, later, exceeds⟩

end Sessions

/-- **The bridge.** If the loopback takes what it is sent, in whatever portions, frames that
`api_server` accepts arrive there one behind the other, and the session stays open, exactly if
every one of them, with its header, is within the cap of the bridge. -/
theorem ws_bridge (accept : Nat → Option Nat) (accepts : ∀ n, accept n ≠ none)
    (frames : List ApiFrame) :
    (bridge accept (frames.map ApiFrame.bytes)).closed = false ∧
        (bridge accept (frames.map ApiFrame.bytes)).loop.sent =
          (frames.map ApiFrame.bytes).flatten ↔
      ∀ frame ∈ frames, frame.bytes.length ≤ wsRxMax := by
  constructor
  · rintro ⟨open_, _⟩ frame mem
    by_contra long
    have closed := foldl_tooLong (s := { loop := { accept } })
      ⟨frame.bytes, List.mem_map_of_mem mem, not_le.mp long⟩
    rw [bridge, closed] at open_
    cases open_
  · intro fits
    refine foldl_fits (s := { loop := { accept } }) accepts rfl rfl fun bytes mem => ?_
    obtain ⟨frame, own, rfl⟩ := List.mem_map.mp mem
    exact fits frame own

/-- A frame with the shortest header for its message. -/
def ApiFrame.of (m : Message) (fits : m.Fits maxMessageSize) : ApiFrame where
  bytes := 0x00 :: (Varint.encode m.payload.length ++ (Varint.encode m.type.toNat ++ m.payload))
  accepted := by
    obtain ⟨type, short, _⟩ := fits
    refine accepted_iff.mpr ⟨m, _, _, rfl, ?_, ?_, short⟩
    · exact Varint.isVarint_encode ((Varint.size_le_iff _ 2).mpr (by omega))
    · exact Varint.isVarint_encode ((Varint.size_le_iff _ 1).mpr (by omega))

/-- A payload of 2048 bytes: `api_server` takes the frame, and the bridge closes the session. -/
theorem largest_payload_closes :
    let frame := ApiFrame.of ⟨1, List.replicate 2048 0⟩
      ⟨by decide, List.length_replicate.le, List.length_replicate.le⟩
    (bridge (fun _ => some 0) [frame.bytes]).closed = true ∧
      (bridge (fun _ => some 0) [frame.bytes]).loop.sent = [] := by
  intro frame
  have long : wsRxMax < frame.bytes.length := by
    simp only [frame, ApiFrame.of, wsRxMax, maxMessageSize, List.length_cons, List.length_append,
      List.length_replicate]
    omega
  refine ⟨foldl_tooLong ⟨frame.bytes, List.mem_singleton_self _, long⟩, ?_⟩
  have some_ : frame.bytes.length ≠ 0 := by omega
  simp [bridge, receive, wsHandler, some_, long]

def helloRequest : ApiFrame := .of ⟨1, []⟩ (by decide)

def deviceInfoRequest : ApiFrame := .of ⟨9, []⟩ (by decide)

/-- Two frames, of which every write takes two bytes. -/
theorem ws_bridge_two_frames :
    (bridge (fun _ => some 1) [helloRequest.bytes, deviceInfoRequest.bytes]).closed = false ∧
      (bridge (fun _ => some 1) [helloRequest.bytes, deviceInfoRequest.bytes]).loop.sent =
        [0, 0, 1, 0, 0, 9] := by
  have hello : helloRequest.bytes = [0, 0, 1] := by
    simp [helloRequest, ApiFrame.of, Varint.encode]
  have deviceInfo : deviceInfoRequest.bytes = [0, 0, 9] := by
    simp [deviceInfoRequest, ApiFrame.of, Varint.encode]
  have carried := (ws_bridge (fun _ => some 1) (by simp) [helloRequest, deviceInfoRequest]).mpr
    (by simp [hello, deviceInfo, wsRxMax, maxMessageSize])
  refine ⟨carried.1, carried.2.trans ?_⟩
  simp [hello, deviceInfo]

end NimbleProxy.Api.WsBridge
