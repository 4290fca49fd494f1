/-
# Api.LogRing -- the log ring is the end of the log stream

`stats.cpp`, `log_ring_append` and `build_log_slice`; `ble_httpd.cpp`, the route GET
/log; `index.html`, `tickLog`. Every logged line goes into a ring whose positions count
all the bytes that were ever logged. A reader passes on the position where it goes on,
and gets one piece at a time: to the end of the ring, of the log, or of its buffer.

The stream is what was appended, less the heads of lines that are longer than the ring.
As long as it is shorter than 2^32 bytes, ring and stream are in the relation `Refines`,
and every slice is a piece of the stream (`Refines.slice`). `/trace` starts a new log
and is left out.

Over BLE the position stands in front of the bytes, in ten digits and a newline. The
browser reads it from there (`readEnvelope`), so that a poll is one action.
-/
import NimbleProxy.Theory.ActionSystem
import NimbleProxy.Theory.RingStream
import Mathlib.Data.List.TakeWhile
import Mathlib.Algebra.Group.Nat.Defs

namespace NimbleProxy.Api.LogRing

open NimbleProxy.Theory ActionSystem RingStream

set_option autoImplicit false

/-! ## The ring -/

/-- `LOG_RING_SIZE`, which is larger in a build that logs NimBLE at DEBUG. -/
def logRingSize (debug : Bool) : Nat := if debug then 65536 else 8192

theorem logRingSize_pos (debug : Bool) : 0 < logRingSize debug := by
  cases debug <;> decide

structure Log where
  /-- `g_log_mutex` is not null: `install_log_hook` has run, the first call of `app_main` -/
  mutex : Bool := true
  ring : Memory := fun _ => 0
  seq : Nat := 0

/-- What `log_ring_append` keeps of a line. -/
def kept (size : Nat) (data : List UInt8) : List UInt8 :=
  if size < data.length then data.drop (data.length - size) else data

def logRingAppend (size : Nat) (log : Log) (data : List UInt8) : Log :=
  if data.length = 0 ∨ log.mutex = false then log
  else
    let data := kept size data
    { log with ring := put size log.ring log.seq data, seq := (log.seq + data.length) % 2 ^ 32 }

/-- What `build_log_slice` returns and stores. -/
structure Slice where
  /-- `*since_inout` -/
  since : Nat
  bytes : List UInt8
  /-- `*out_seq` -/
  seq : Nat
  deriving DecidableEq

def buildLogSlice (size : Nat) (log : Log) (since cap : Nat) : Slice :=
  if !log.mutex then ⟨since, [], 0⟩
  else
    let since :=
      if log.seq < since then log.seq
      else if size < log.seq - since then log.seq - size
      else since
    let backlog := log.seq - since
    if backlog = 0 ∨ cap = 0 then ⟨since, [], log.seq⟩
    else
      let start := since % size
      let contig := min backlog (size - start)
      ⟨since, log.ring.load start (min contig cap), log.seq⟩

/-! ## Ring and stream -/

/-- The ring has the end of the stream. -/
structure Refines (size : Nat) (log : Log) (stream : List UInt8) : Prop where
  mutex : log.mutex = true
  seq : log.seq = stream.length
  holds : Holds size log.ring stream

theorem refines_start (size : Nat) : Refines size {} [] :=
  ⟨rfl, rfl, fun _ within => nomatch within⟩

section Refines

variable {size : Nat} {log : Log} {stream : List UInt8}

theorem length_kept (size : Nat) (data : List UInt8) : (kept size data).length ≤ size := by
  unfold kept
  split
  · simp only [List.length_drop]
    omega
  · omega

theorem kept_eq_nil {data : List UInt8} (empty : data.length = 0) : kept size data = [] := by
  rw [List.length_eq_zero_iff.mp empty]
  rfl

/-- **What is appended is appended to the stream.** -/
theorem Refines.append (refines : Refines size log stream) (pos : 0 < size) {data : List UInt8}
    (fits : stream.length + (kept size data).length < 2 ^ 32) :
    Refines size (logRingAppend size log data) (stream ++ kept size data) := by
  unfold logRingAppend
  split
  · rename_i nothing
    have empty : data.length = 0 := nothing.resolve_right (by simp [refines.mutex])
    rw [kept_eq_nil empty, List.append_nil]
    exact refines
  · dsimp only
    rw [refines.seq, Nat.mod_eq_of_lt fits]
    refine ⟨refines.mutex, ?_, ?_⟩
    · rw [List.length_append]
    · exact refines.holds.put pos (length_kept size data)

/-- **A slice is a piece of the stream.** It begins at `since` if that is in the ring, at the
oldest byte of the ring if `since` is before it, and at the end if `since` is behind that; and it
is as long as the backlog, the ring and the buffer allow. -/
theorem Refines.slice (refines : Refines size log stream) (pos : 0 < size) (since cap : Nat) :
    ∃ start n, buildLogSlice size log since cap =
        ⟨start, (stream.drop start).take n, stream.length⟩ ∧
      start = min (max since (stream.length - size)) stream.length ∧
      n = min (min (stream.length - start) (size - start % size)) cap := by
  unfold buildLogSlice
  rw [refines.mutex, refines.seq]
  simp only [Bool.not_true, Bool.false_eq_true, if_false]
  have adjusted : (if stream.length < since then stream.length
      else if size < stream.length - since then stream.length - size else since) =
      min (max since (stream.length - size)) stream.length := by
    split
    · omega
    split <;> omega
  rw [adjusted]
  generalize reached : min (max since (stream.length - size)) stream.length = start
  have inRing : start % size < size := Nat.mod_lt start pos
  split
  · rename_i nothing
    refine ⟨start, 0, by simp, rfl, by omega⟩
  · refine ⟨start, _, ?_, rfl, rfl⟩
    rw [refines.holds.load pos (by omega) (by omega) (by omega)]

end Refines

/-! ## GET /log over BLE -/

/-- The last `width` decimal digits. -/
def decimal : Nat → Nat → List UInt8
  | 0, _ => []
  | width + 1, n => decimal width (n / 10) ++ [UInt8.ofNat (48 + n % 10)]

def isDigit (byte : UInt8) : Bool := 48 ≤ byte && byte ≤ 57

/-- `parseInt`, of a text that begins with a digit. -/
def parseInt (text : List UInt8) : Nat :=
  (text.takeWhile isDigit).foldl (fun n byte => 10 * n + (byte.toNat - 48)) 0

theorem toNat_digit (n : Nat) : (UInt8.ofNat (48 + n % 10)).toNat = 48 + n % 10 := by
  rw [UInt8.toNat_ofNat']
  omega

theorem isDigit_decimal (width n : Nat) : ∀ byte ∈ decimal width n, isDigit byte = true := by
  induction width generalizing n with
  | zero => exact fun _ mem => nomatch mem
  | succ width ih =>
      intro byte mem
      rcases List.mem_append.mp mem with front | last
      · exact ih _ byte front
      · rw [List.mem_singleton.mp last]
        have value := toNat_digit n
        simp only [isDigit, Bool.and_eq_true, decide_eq_true_eq, UInt8.le_iff_toNat_le, value]
        constructor
        · simp
        · simp
          omega

/-- The digits of a number give the number back. -/
theorem parseInt_decimal (width n : Nat) : parseInt (decimal width n) = n % 10 ^ width := by
  have digits : (decimal width n).takeWhile isDigit = decimal width n :=
    List.takeWhile_eq_self_iff.mpr (isDigit_decimal width n)
  unfold parseInt
  rw [digits]
  clear digits
  induction width generalizing n with
  | zero => simp [decimal, Nat.mod_one]
  | succ width ih =>
      simp only [decimal, List.foldl_append, List.foldl_cons, List.foldl_nil]
      rw [ih, toNat_digit, Nat.add_sub_cancel_left, Nat.pow_succ', Nat.mod_mul]
      omega

def logPrefix : Nat := 11
def logMax : Nat := 1024
def newline : UInt8 := 10

/-- The route GET /log of `dispatch`: `%010lu`, a newline and the bytes. -/
def dispatchLog (size : Nat) (log : Log) (since cap : Nat) : List UInt8 :=
  if cap ≤ logPrefix then []
  else
    let slice := buildLogSlice size log since (min (cap - logPrefix) logMax)
    let nextSince := (slice.since + slice.bytes.length) % 2 ^ 32
    decimal 10 nextSince ++ [newline] ++ slice.bytes

/-- The envelope as `tickLog` takes it apart: the next position and the bytes. -/
def readEnvelope (body : List UInt8) : Option (Nat × List UInt8) :=
  match body.dropWhile (· ≠ newline) with
  | [] => none
  | _ :: content => some (parseInt (body.takeWhile (· ≠ newline)), content)

/-- **The browser reads what the device has written.** -/
theorem readEnvelope_decimal {n : Nat} (fits : n < 2 ^ 32) (content : List UInt8) :
    readEnvelope (decimal 10 n ++ [newline] ++ content) = some (n, content) := by
  have digits : ∀ byte ∈ decimal 10 n, decide (byte ≠ newline) = true := by
    intro byte mem
    have digit := isDigit_decimal 10 n byte mem
    apply decide_eq_true
    rintro rfl
    cases digit
  unfold readEnvelope
  rw [List.append_assoc, List.dropWhile_append_of_pos digits, List.takeWhile_append_of_pos digits]
  have value : parseInt (decimal 10 n) = n := by
    rw [parseInt_decimal]
    exact Nat.mod_eq_of_lt (by omega)
  simp [newline, value]

/-! ## Appending and polling -/

structure State where
  log : Log := {}
  /-- all that was appended -/
  stream : List UInt8 := []
  /-- `g_logSeq` of the browser -/
  next : Nat
  /-- where its first piece began -/
  origin : Option Nat := none
  /-- what it was given -/
  console : List UInt8 := []

inductive Action
  | append (data : List UInt8)
  | poll

/-- `RESP_BUF_BYTES`. -/
def respBufBytes : Nat := 4096

/-- One round of `tickLog`. -/
def poll (size : Nat) (s : State) : State :=
  match readEnvelope (dispatchLog size s.log s.next respBufBytes) with
  | none => s
  | some (next, content) =>
      { s with
        next
        origin := some (s.origin.getD (buildLogSlice size s.log s.next logMax).since)
        console := s.console ++ content }

/-- The stream stays below 2^32 bytes. -/
def Guard (size : Nat) (s : State) : Action → Prop
  | .append data => s.stream.length + (kept size data).length < 2 ^ 32
  | .poll => True

instance (size : Nat) (s : State) : (a : Action) → Decidable (Guard size s a)
  | .append _ => inferInstanceAs (Decidable (_ < _))
  | .poll => isTrue trivial

def effect (size : Nat) (s : State) : Action → State
  | .append data =>
      { s with log := logRingAppend size s.log data, stream := s.stream ++ kept size data }
  | .poll => poll size s

/-- A browser that asks for `first` when it begins. -/
def system (debug : Bool) (first : Nat) : ActionSystem State Action where
  init := { next := first }
  Guard := Guard (logRingSize debug)
  guardDecidable := inferInstance
  effect := effect (logRingSize debug)

/-- A poll that is at most a ring behind. -/
def NotBehind (size : Nat) (s : State) : Action → Prop
  | .append _ => True
  | .poll => s.stream.length ≤ s.next + size

instance (size : Nat) (s : State) : (a : Action) → Decidable (NotBehind size s a)
  | .append _ => isTrue trivial
  | .poll => inferInstanceAs (Decidable (_ ≤ _))

section Runs

variable {debug : Bool} {first : Nat} {s : State}

/-- What a poll gets. -/
theorem poll_eq {size : Nat} (refines : Refines size s.log s.stream) (pos : 0 < size)
    (short : s.stream.length < 2 ^ 32) :
    ∃ start n, buildLogSlice size s.log s.next logMax =
        ⟨start, (s.stream.drop start).take n, s.stream.length⟩ ∧
      start = min (max s.next (s.stream.length - size)) s.stream.length ∧
      start + n ≤ s.stream.length ∧
      poll size s =
        { s with
          next := start + n
          origin := some (s.origin.getD start)
          console := s.console ++ (s.stream.drop start).take n } := by
  obtain ⟨start, n, slice, begins, takes⟩ := refines.slice pos s.next logMax
  have within : start + n ≤ s.stream.length := by omega
  have whole : ((s.stream.drop start).take n).length = n := by
    simp only [List.length_take, List.length_drop]
    omega
  refine ⟨start, n, slice, begins, within, ?_⟩
  have cap : min (respBufBytes - logPrefix) logMax = logMax := by decide
  have body : dispatchLog size s.log s.next respBufBytes =
      decimal 10 (start + n) ++ [newline] ++ (s.stream.drop start).take n := by
    unfold dispatchLog
    rw [if_neg (by decide), cap, slice]
    simp only [whole]
    rw [Nat.mod_eq_of_lt (by omega)]
  unfold poll
  rw [body, readEnvelope_decimal (by omega), slice]

/-- The ring has the end of the stream, and the stream is short. -/
def Logged (size : Nat) (s : State) : Prop :=
  Refines size s.log s.stream ∧ s.stream.length < 2 ^ 32

theorem logged_step {size : Nat} (pos : 0 < size) (logged : Logged size s) (a : Action)
    (guard : Guard size s a) : Logged size (effect size s a) := by
  cases a with
  | append data =>
      refine ⟨logged.1.append pos guard, ?_⟩
      simp only [effect, List.length_append]
      exact guard
  | poll =>
      obtain ⟨start, n, _, _, _, polled⟩ := poll_eq logged.1 pos logged.2
      simp only [effect, polled]
      exact logged

theorem logged_reachable (path : (system debug first).Reachable s) :
    Logged (logRingSize debug) s := by
  refine path.invariant (P := Logged (logRingSize debug)) ?_ ?_
  · exact ⟨refines_start _, Nat.two_pow_pos 32⟩
  · intro s a logged guard
    exact logged_step (logRingSize_pos debug) logged a guard

/-- The browser has the stream from where it began to where it goes on. -/
def Continuous (s : State) : Prop :=
  ∀ origin, s.origin = some origin → origin ≤ s.next ∧ Follows s.stream origin s.next s.console

/-- Before its first piece the browser has nothing. -/
def Unread (s : State) : Prop := s.origin = none → s.console = []

theorem continuous_step {size : Nat} (pos : 0 < size) (logged : Logged size s)
    (continuous : Continuous s ∧ Unread s) (a : Action) (near : NotBehind size s a) :
    Continuous (effect size s a) ∧ Unread (effect size s a) := by
  obtain ⟨follows, unread⟩ := continuous
  cases a with
  | append data =>
      refine ⟨fun origin begun => ?_, unread⟩
      obtain ⟨order, held⟩ := follows origin begun
      exact ⟨order, held.grow order (kept size data)⟩
  | poll =>
      obtain ⟨start, n, _, begins, within, polled⟩ := poll_eq logged.1 pos logged.2
      simp only [effect, polled]
      refine ⟨?_, fun none => nomatch none⟩
      rintro origin ⟨⟩
      cases begun : s.origin with
      | none =>
          simp only [unread begun, List.nil_append, Option.getD_none]
          refine ⟨by omega, ?_⟩
          exact (Follows.begin (by omega : start ≤ s.stream.length)).read within
      | some origin =>
          obtain ⟨order, held⟩ := follows origin begun
          have same : start = s.next := by
            have reached := held.within
            simp only [NotBehind] at near
            omega
          subst same
          simp only [Option.getD_some]
          exact ⟨by omega, held.read within⟩

end Runs

/-- **The ring is the end of the stream.** After any appends, a slice for any `since` and any
buffer is the piece of the stream that begins at `since`, at the oldest byte of the ring if
`since` is further behind, or at the end if it is ahead; it is not empty if there is anything to
give and room for it. A browser that is never more than a ring behind is given the stream, in
order, without a gap and without a repetition. -/
theorem log_ring_refines (debug : Bool) (first : Nat) (s : State) :
    ((system debug first).Reachable s → ∀ since cap,
      let size := logRingSize debug
      let slice := buildLogSlice size s.log since cap
      slice.bytes = (s.stream.drop slice.since).take slice.bytes.length ∧
        (since ≤ s.stream.length → s.stream.length ≤ since + size → slice.since = since) ∧
        (since + size < s.stream.length → slice.since + size = s.stream.length) ∧
        (s.stream.length < since → slice.since = s.stream.length) ∧
        (slice.since < s.stream.length → 0 < cap → slice.bytes ≠ [])) ∧
    ((system debug first).ReachableWhen (NotBehind (logRingSize debug)) s →
      ∀ origin, s.origin = some origin →
        s.stream.drop origin = s.console ++ s.stream.drop s.next ∧ s.next ≤ s.stream.length) := by
  constructor
  · intro path since cap
    obtain ⟨refines, _⟩ := logged_reachable path
    have pos := logRingSize_pos debug
    obtain ⟨start, n, slice, begins, takes⟩ := refines.slice pos since cap
    have inRing : start % logRingSize debug < logRingSize debug := Nat.mod_lt start pos
    have whole : ((s.stream.drop start).take n).length = n := by
      simp only [List.length_take, List.length_drop]
      omega
    simp only [slice, whole]
    refine ⟨trivial, by omega, by omega, by omega, ?_⟩
    intro backlog room empty
    rw [empty] at whole
    simp only [List.length_nil] at whole
    omega
  · intro path origin begun
    have held : Continuous s ∧ Unread s := by
      refine path.invariant_with (K := Logged (logRingSize debug)) (P := fun s => Continuous s ∧ Unread s)
        (fun _ => logged_reachable) ⟨nofun, fun _ => rfl⟩ ?_
      intro s a logged continuous _ near
      exact continuous_step (logRingSize_pos debug) logged continuous a near
    exact ⟨(held.1 origin begun).2.stream_eq, (held.1 origin begun).2.within⟩

/-- Two lines, and a poll after each of them. -/
def twoLines : List Action := [.append [72, 105, 10], .poll, .append [33, 10], .poll]

theorem log_ring_refines_two_lines :
    (system false 0).ReachableWhen (NotBehind 8192)
        ((system false 0).finalFrom (NotBehind 8192) (system false 0).init twoLines) ∧
      ((system false 0).finalFrom (NotBehind 8192) (system false 0).init twoLines).console =
        [72, 105, 10, 33, 10] := by
  have path := (system false 0).reachable_finalFrom (NotBehind 8192) (system false 0).init twoLines
  have given := ((log_ring_refines false 0 _).2 path 0 (by decide +kernel)).1
  refine ⟨path, ?_⟩
  have stream : ((system false 0).finalFrom (NotBehind 8192) (system false 0).init twoLines).stream =
      [72, 105, 10, 33, 10] := by decide +kernel
  have next : ((system false 0).finalFrom (NotBehind 8192) (system false 0).init twoLines).next = 5 := by
    decide +kernel
  rw [stream, next] at given
  simpa using given.symm

end NimbleProxy.Api.LogRing
