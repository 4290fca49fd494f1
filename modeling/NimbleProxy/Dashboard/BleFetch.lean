/-
# Dashboard.BleFetch -- requests and responses over two characteristics

`index.html`, `bleFetch` and `onNotify`; `ble_httpd.cpp`, `onWrite` and `send_response`.
The browser writes one request at a time, with a byte that counts requests. The device
answers with notifications of up to 242 bytes that carry this byte, the last one marked;
if a notification cannot be sent it gives the response up. The browser collects what
arrives under the byte and gives the whole to the request that waits under it. After 8 s
it gives up too, and forgets what it has collected.

What arrives later is collected again, with nobody waiting, and stays: the mark may never
come. 256 requests on, the same byte is in use again. `FreshId` is that nothing of the
earlier use is left then, neither in the browser nor on the way; what it is good for is
in `Dashboard.ResponseMatching`.

A request is known by its number (`g_reqId`), of which the byte is the remainder. The
connection stands and its MTU fits a notification. A write may fail whether or not the
device gets it. Timers have one length and fire in the order in which they were set, at
any moment.
-/
import NimbleProxy.Theory.ActionSystem

namespace NimbleProxy.Dashboard.BleFetch

open NimbleProxy.Theory ActionSystem

set_option autoImplicit false

/-! ## Fragments -/

/-- A notification. -/
structure Frame where
  fin : Bool
  err : Bool
  /-- the byte of the request -/
  id : Nat
  bytes : List UInt8
  deriving DecidableEq

/-- `MAX_FRAG`. -/
def maxFrag : Nat := 242

/-- The loop of `send_response`, for the rest of a payload. -/
def sendFrom (id : Nat) (err : Bool) : Nat → List UInt8 → List Frame
  | 0, rest => [⟨true, err, id, rest⟩]
  | fuel + 1, rest =>
      if rest.length ≤ maxFrag then [⟨true, err, id, rest⟩]
      else ⟨false, err, id, rest.take maxFrag⟩ :: sendFrom id err fuel (rest.drop maxFrag)

/-- All the notifications of a response. -/
def fragments (id : Nat) (err : Bool) (payload : List UInt8) : List Frame :=
  sendFrom id err payload.length payload

section Fragments

variable {id fuel : Nat} {err : Bool} {payload : List UInt8}

/-- Every notification fits. -/
theorem length_fragments_le :
    ∀ frame ∈ fragments id err payload, frame.bytes.length ≤ maxFrag := by
  suffices loop : ∀ fuel rest, rest.length ≤ fuel →
      ∀ frame ∈ sendFrom id err fuel rest, frame.bytes.length ≤ maxFrag from
    loop payload.length payload (Nat.le_refl _)
  intro fuel
  induction fuel with
  | zero =>
      intro rest short frame mem
      rw [List.mem_singleton.mp mem]
      exact Nat.le_trans short (by decide)
  | succ fuel ih =>
      intro rest short frame mem
      simp only [sendFrom] at mem
      split at mem
      · rename_i fits
        rw [List.mem_singleton.mp mem]
        exact fits
      · rcases List.mem_cons.mp mem with rfl | later
        · simp only [List.length_take]
          omega
        · refine ih _ ?_ frame later
          simp only [List.length_drop, maxFrag]
          omega

/-- A response: the byte and the error flag everywhere, the mark on the last notification only,
and something in all the others. -/
structure Whole (id : Nat) (err : Bool) (payload : List UInt8) (frames : List Frame) : Prop where
  same : ∀ frame ∈ frames, frame.id = id ∧ frame.err = err
  fin_iff : ∀ before frame after, frames = before ++ frame :: after →
    (frame.fin = true ↔ after = [])
  nonempty : ∀ frame ∈ frames, frame.fin = false → frame.bytes ≠ []
  bytes : (frames.map Frame.bytes).flatten = payload

theorem whole_sendFrom (id : Nat) (err : Bool) (fuel : Nat) (rest : List UInt8) :
    Whole id err rest (sendFrom id err fuel rest) ∧ sendFrom id err fuel rest ≠ [] := by
  have last (rest : List UInt8) : Whole id err rest [⟨true, err, id, rest⟩] := by
    refine ⟨?_, ?_, ?_, by simp⟩
    · simp
    · intro before frame after split
      cases before with
      | nil =>
          cases split
          simp
      | cons _ before => simp at split
    · simp
  induction fuel generalizing rest with
  | zero => exact ⟨last rest, nofun⟩
  | succ fuel ih =>
      simp only [sendFrom]
      split
      · exact ⟨last rest, nofun⟩
      · rename_i long
        obtain ⟨later, some⟩ := ih (rest.drop maxFrag)
        refine ⟨⟨?_, ?_, ?_, ?_⟩, nofun⟩
        · intro frame mem
          rcases List.mem_cons.mp mem with rfl | mem
          · exact ⟨rfl, rfl⟩
          · exact later.same frame mem
        · intro before frame after split
          cases before with
          | nil =>
              cases split
              simpa using some
          | cons _ before =>
              simp only [List.cons_append, List.cons.injEq] at split
              exact later.fin_iff before frame after split.2
        · intro frame mem
          rcases List.mem_cons.mp mem with rfl | mem
          · intro _ empty
            rw [List.take_eq_nil_iff] at empty
            rcases empty with zero | nil
            · cases zero
            · simp [nil] at long
          · exact later.nonempty frame mem
        · simp only [List.map_cons, List.flatten_cons, later.bytes, List.take_append_drop]

theorem whole_fragments (id : Nat) (err : Bool) (payload : List UInt8) :
    Whole id err payload (fragments id err payload) :=
  (whole_sendFrom id err payload.length payload).1

end Fragments

/-! ## The system -/

/-- A promise that `onNotify` has settled. -/
structure Answer where
  request : Nat
  text : List UInt8
  rejected : Bool
  deriving DecidableEq

/-- Where `run` is: in the queue of `g_inflight`, at the write, or at the promise. -/
inductive Run
  | idle
  | writing (request : Nat)
  | waiting (request : Nat)
  deriving DecidableEq

structure State where
  /-- `g_reqId` -/
  counter : Nat := 0
  run : Run := .idle
  /-- `g_chunks` -/
  chunks : Nat → Option (List (List UInt8)) := fun _ => none
  /-- `g_pending`, with the request that waits there -/
  pending : Nat → Option Nat := fun _ => none
  /-- the requests whose timers run, the oldest first -/
  timers : List Nat := []
  /-- the requests whose promise is settled -/
  settled : List Nat := []
  answers : List Answer := []
  /-- requests on their way to the device -/
  outbox : List Nat := []
  /-- notifications on their way to the browser -/
  channel : List Frame := []
  /-- the payload of the device for a request, and whether it is an error -/
  produced : Nat → Option (List UInt8 × Bool) := fun _ => none

/-- The byte of a request. -/
def reqId (request : Nat) : Nat := request % 256

/-- `run` up to the write. -/
def begin_ (s : State) : State :=
  let request := s.counter + 1
  { s with
    counter := request
    run := .writing request
    pending := Function.update s.pending (reqId request) (some request)
    timers := s.timers ++ [request]
    outbox := s.outbox ++ [request] }

def onNotify (s : State) (frame : Frame) : State :=
  let parts := (s.chunks frame.id).getD [] ++ [frame.bytes]
  if frame.fin then
    let s := { s with chunks := Function.update s.chunks frame.id none }
    match s.pending frame.id with
    | none => s
    | some request =>
        { s with
          pending := Function.update s.pending frame.id none
          settled := request :: s.settled
          answers := s.answers ++ [⟨request, parts.flatten, frame.err⟩] }
  else { s with chunks := Function.update s.chunks frame.id (some parts) }

/-- The timer of a request: it looks at what waits under its byte, and settles its own promise. -/
def onTimeout (s : State) (request : Nat) : State :=
  if (s.pending (reqId request)).isSome then
    { s with
      pending := Function.update s.pending (reqId request) none
      chunks := Function.update s.chunks (reqId request) none
      settled := request :: s.settled }
  else s

/-- `onWrite`: the device has a payload, of which the first `sent` notifications go out. -/
def onWrite (s : State) (request : Nat) (payload : List UInt8) (err : Bool) (sent : Nat) : State :=
  { s with
    produced := Function.update s.produced request (some (payload, err))
    channel := s.channel ++ (fragments (reqId request) err payload).take sent }

inductive Action
  | begin_
  | writeDone
  | writeFails
  /-- `run` goes on with the settled promise -/
  | resume
  | timeout
  | notify
  | onWrite (payload : List UInt8) (err : Bool) (sent : Nat)
  /-- a request does not arrive -/
  | lose (request : Nat)

def Guard (s : State) : Action → Prop
  | .begin_ => s.run = .idle
  | .writeDone | .writeFails => ∃ request, s.run = .writing request
  | .resume => ∃ request ∈ s.settled, s.run = .waiting request
  | .timeout => s.timers ≠ []
  | .notify => s.channel ≠ []
  | .onWrite .. => s.outbox ≠ []
  | .lose request => request ∈ s.outbox

instance : (run : Run) → Decidable (∃ request, run = .writing request)
  | .writing request => isTrue ⟨request, rfl⟩
  | .idle => isFalse nofun
  | .waiting _ => isFalse nofun

instance (s : State) : (a : Action) → Decidable (Guard s a)
  | .begin_ => inferInstanceAs (Decidable (_ = _))
  | .writeDone | .writeFails => inferInstanceAs (Decidable (∃ request, s.run = .writing request))
  | .resume => inferInstanceAs (Decidable (∃ request ∈ s.settled, s.run = .waiting request))
  | .timeout => inferInstanceAs (Decidable (s.timers ≠ []))
  | .notify => inferInstanceAs (Decidable (s.channel ≠ []))
  | .onWrite .. => inferInstanceAs (Decidable (s.outbox ≠ []))
  | .lose request => inferInstanceAs (Decidable (request ∈ s.outbox))

def effect (s : State) : Action → State
  | .begin_ => begin_ s
  | .writeDone =>
      match s.run with
      | .writing request => { s with run := .waiting request }
      | _ => s
  | .writeFails | .resume => { s with run := .idle }
  | .timeout =>
      match s.timers with
      | [] => s
      | request :: rest => onTimeout { s with timers := rest } request
  | .notify =>
      match s.channel with
      | [] => s
      | frame :: rest => onNotify { s with channel := rest } frame
  | .onWrite payload err sent =>
      match s.outbox with
      | [] => s
      | request :: rest => onWrite { s with outbox := rest } request payload err sent
  | .lose request => { s with outbox := s.outbox.erase request }

def system : ActionSystem State Action where
  init := {}
  Guard := Guard
  guardDecidable := inferInstance
  effect := effect

/-- Nothing is left of the last request with this byte. -/
def Unused (s : State) (id : Nat) : Prop :=
  s.chunks id = none ∧ (∀ frame ∈ s.channel, frame.id ≠ id) ∧ ∀ request ∈ s.outbox, reqId request ≠ id

instance (s : State) (id : Nat) : Decidable (Unused s id) :=
  inferInstanceAs (Decidable (_ ∧ _ ∧ _))

/-- A request takes a byte of which nothing is left. -/
def FreshId (s : State) : Action → Prop
  | .begin_ => Unused s (reqId (s.counter + 1))
  | _ => True

instance (s : State) : (a : Action) → Decidable (FreshId s a)
  | .begin_ => inferInstanceAs (Decidable (Unused _ _))
  | .writeDone | .writeFails | .resume | .timeout | .notify | .onWrite .. | .lose _ => isTrue trivial

/-- **Every settled promise has the payload of its own request.** -/
def Matches (s : State) : Prop :=
  ∀ answer ∈ s.answers, s.produced answer.request = some (answer.text, answer.rejected)

instance (s : State) : Decidable (Matches s) :=
  inferInstanceAs (Decidable (∀ answer ∈ s.answers, _ = _))

/-! ## What a notification touches -/

section OnNotify

variable {s : State} {frame : Frame} {id : Nat}

@[simp] theorem channel_onNotify : (onNotify s frame).channel = s.channel := by
  unfold onNotify
  dsimp only
  repeat' split
  all_goals rfl

@[simp] theorem outbox_onNotify : (onNotify s frame).outbox = s.outbox := by
  unfold onNotify
  dsimp only
  repeat' split
  all_goals rfl

@[simp] theorem produced_onNotify : (onNotify s frame).produced = s.produced := by
  unfold onNotify
  dsimp only
  repeat' split
  all_goals rfl

theorem chunks_onNotify_of_ne (other : id ≠ frame.id) :
    (onNotify s frame).chunks id = s.chunks id := by
  unfold onNotify
  dsimp only
  repeat' split
  all_goals exact Function.update_of_ne other _ _

theorem pending_onNotify_of_ne (other : id ≠ frame.id) :
    (onNotify s frame).pending id = s.pending id := by
  unfold onNotify
  dsimp only
  repeat' split
  · rfl
  · exact Function.update_of_ne other _ _
  · rfl

theorem onNotify_of_more (more : frame.fin = false) :
    onNotify s frame =
      { s with
        chunks := Function.update s.chunks frame.id
          (some ((s.chunks frame.id).getD [] ++ [frame.bytes])) } := by
  simp [onNotify, more]

end OnNotify

end NimbleProxy.Dashboard.BleFetch
