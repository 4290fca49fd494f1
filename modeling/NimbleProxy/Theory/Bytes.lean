/-
# Theory.Bytes -- a byte memory, and a byte stream delivered in short reads

`Memory` is a buffer seen from its start. `store` writes a string at an offset,
`load` reads one back; what a program does to a buffer is a chain of stores, and
its proofs are about which loads they leave alone.

`Source` is the receiving end of a stream: the bytes still to come, how the
stream ends, and how much each read is given. `recv` returns at least one byte
while there are any and never more than asked for; beyond that the amount is
`offer`'s, an arbitrary function of the number of the read, so that a statement
about every `offer` is one about every way to split the stream. `Sink` is the sending
end in the same way: a write fails, or takes at least one byte of what it is given.
-/
import Mathlib.Data.List.Basic
import Mathlib.Data.List.Range
import Mathlib.Tactic.Common

namespace NimbleProxy.Theory

set_option autoImplicit false

/-! ## Memory -/

abbrev Memory := Nat → UInt8

namespace Memory

def store (mem : Memory) (at_ : Nat) (bytes : List UInt8) : Memory :=
  fun i => if at_ ≤ i then (bytes[i - at_]?).getD (mem i) else mem i

def load (mem : Memory) (at_ n : Nat) : List UInt8 :=
  (List.range n).map fun i => mem (at_ + i)

variable {mem : Memory} {at_ n : Nat} {bytes : List UInt8}

@[simp] theorem length_load (mem : Memory) (at_ n : Nat) : (mem.load at_ n).length = n := by
  simp [load]

theorem store_below {i : Nat} (below : i < at_) : mem.store at_ bytes i = mem i := by
  unfold store
  rw [if_neg (by omega)]

theorem store_beyond {i : Nat} (beyond : at_ + bytes.length ≤ i) :
    mem.store at_ bytes i = mem i := by
  unfold store
  split
  · rw [List.getElem?_eq_none (by omega)]
    rfl
  · rfl

theorem load_congr {mem' : Memory} (same : ∀ i, at_ ≤ i → i < at_ + n → mem i = mem' i) :
    mem.load at_ n = mem'.load at_ n := by
  unfold load
  apply List.map_congr_left
  intro i inside
  rw [List.mem_range] at inside
  exact same (at_ + i) (by omega) (by omega)

/-- A load before a store, or after it, does not see it. -/
theorem load_store_apart {off : Nat} (apart : off + n ≤ at_ ∨ at_ + bytes.length ≤ off) :
    (mem.store at_ bytes).load off n = mem.load off n := by
  apply load_congr
  intro i low high
  rcases apart with before | behind
  · exact store_below (by omega)
  · exact store_beyond (by omega)

/-- What was stored is loaded. -/
theorem load_store (mem : Memory) (at_ : Nat) (bytes : List UInt8) :
    (mem.store at_ bytes).load at_ bytes.length = bytes := by
  refine List.ext_getElem (by simp) ?_
  intro i low high
  simp [load, store, List.getElem?_eq_getElem high]

@[simp] theorem store_nil (mem : Memory) (at_ : Nat) : mem.store at_ [] = mem := by
  funext i
  simp [store]

theorem store_append (mem : Memory) (at_ : Nat) (front back : List UInt8) :
    mem.store at_ (front ++ back) = (mem.store at_ front).store (at_ + front.length) back := by
  funext i
  simp only [store]
  by_cases behind : at_ + front.length ≤ i
  · rw [if_pos (by omega), if_pos behind, if_pos (by omega), List.getElem?_append_right (by omega),
      List.getElem?_eq_none (show front.length ≤ i - at_ by omega), Nat.sub_add_eq]
    rfl
  · rw [if_neg behind]
    split
    · rw [List.getElem?_append_left (by omega)]
    · rfl

theorem load_append (mem : Memory) (at_ n m : Nat) :
    mem.load at_ (n + m) = mem.load at_ n ++ mem.load (at_ + n) m := by
  unfold load
  rw [List.range_add, List.map_append, List.map_map]
  refine congrArg _ (List.map_congr_left ?_)
  intro i _
  simp [Nat.add_assoc]

end Memory

/-! ## Streams -/

/-- How a stream ends: the peer closed it, or the socket failed. -/
inductive Ending
  | eof | error
  deriving DecidableEq

/-- The receiving end of a stream. -/
structure Source where
  bytes : List UInt8
  ending : Ending
  /-- how many bytes beyond the first the `n`-th read is given, if there are as many -/
  offer : Nat → Nat
  reads : Nat := 0

/-- What one read returns: at least one byte, or the end. -/
inductive Recv
  | data (first : UInt8) (more : List UInt8)
  | ended (ending : Ending)

namespace Source

/-- A read of up to `n` bytes; `n` is positive. -/
def recv (src : Source) (n : Nat) : Recv × Source :=
  match src.bytes with
  | [] => (.ended src.ending, { src with reads := src.reads + 1 })
  | first :: rest =>
      let more := min (n - 1) (src.offer src.reads)
      (.data first (rest.take more), { src with bytes := rest.drop more, reads := src.reads + 1 })

/-- `after` is `src` with its first `n` bytes read. -/
structure Reads (src : Source) (n : Nat) (after : Source) : Prop where
  bytes : after.bytes = src.bytes.drop n
  ending : after.ending = src.ending

theorem Reads.trans {src mid after : Source} {n m : Nat} (first : src.Reads n mid)
    (second : mid.Reads m after) : src.Reads (n + m) after := by
  refine ⟨?_, second.ending.trans first.ending⟩
  rw [second.bytes, first.bytes, List.drop_drop]

theorem recv_nil {src : Source} (empty : src.bytes = []) (n : Nat) :
    ∃ after, src.recv n = (.ended src.ending, after) ∧ src.Reads 0 after := by
  unfold recv
  rw [empty]
  exact ⟨_, rfl, by simpa using empty.symm, rfl⟩

/-- A read gives between one and `n` of the bytes to come, and takes those. -/
theorem recv_cons {src : Source} {first : UInt8} {rest : List UInt8}
    (here : src.bytes = first :: rest) (n : Nat) :
    ∃ k after, src.recv n = (.data first (rest.take k), after) ∧ k ≤ n - 1 ∧ k ≤ rest.length ∧
      src.Reads (k + 1) after := by
  have recvd : src.recv n = (.data first (rest.take (min (n - 1) (src.offer src.reads))),
      { src with bytes := rest.drop (min (n - 1) (src.offer src.reads)), reads := src.reads + 1 }) := by
    unfold recv
    rw [here]
  refine ⟨min (min (n - 1) (src.offer src.reads)) rest.length, (src.recv n).2, ?_, by omega,
    by omega, ?_, ?_⟩
  · rw [recvd, List.take_eq_take_min]
  · rw [recvd, here]
    simp only [List.drop_succ_cons]
    rcases Nat.le_total (min (n - 1) (src.offer src.reads)) rest.length with fits | past
    · rw [Nat.min_eq_left fits]
    · rw [Nat.min_eq_right past, List.drop_length, List.drop_eq_nil_of_le past]
  · rw [recvd]

end Source

/-- The sending end of a stream. -/
structure Sink where
  /-- how many bytes beyond the first the `n`-th write takes, if there are as many; `none` if it
  fails -/
  accept : Nat → Option Nat
  sent : List UInt8 := []
  writes : Nat := 0

namespace Sink

/-- A write of `first :: rest`, which takes `first` and so many more, or fails. -/
def send (sink : Sink) (first : UInt8) (rest : List UInt8) : Option Nat × Sink :=
  match sink.accept sink.writes with
  | none => (none, { sink with writes := sink.writes + 1 })
  | some more =>
      let more := min more rest.length
      (some more, { sink with
        sent := sink.sent ++ first :: rest.take more
        writes := sink.writes + 1 })

/-- Writes until everything is sent or a write fails. -/
def sendAll (sink : Sink) : List UInt8 → Bool × Sink
  | [] => (true, sink)
  | first :: rest =>
      match sink.send first rest with
      | (none, sink) => (false, sink)
      | (some more, sink) => sink.sendAll (rest.drop more)
termination_by data => data.length
decreasing_by
  rw [List.length_drop, List.length_cons]
  omega

/-- **If no write fails, everything is sent**, whatever the writes take. -/
theorem sendAll_of_accept {accept : Nat → Option Nat} (accepts : ∀ n, accept n ≠ none)
    (sink : Sink) (same : sink.accept = accept) (data : List UInt8) :
    ∃ after, sink.sendAll data = (true, after) ∧ after.accept = accept ∧
      after.sent = sink.sent ++ data := by
  induction length : data.length using Nat.strong_induction_on generalizing sink data with
  | _ n ih =>
      cases data with
      | nil =>
          rw [sendAll]
          exact ⟨sink, rfl, same, (List.append_nil _).symm⟩
      | cons first rest =>
          obtain ⟨k, takes⟩ := Option.ne_none_iff_exists'.mp (same ▸ accepts sink.writes)
          rw [sendAll]
          simp only [send, takes]
          obtain ⟨after, sent, kept, all⟩ := ih (rest.drop (min k rest.length)).length
            (by rw [← length, List.length_drop, List.length_cons]; omega)
            { sink with
              sent := sink.sent ++ first :: rest.take (min k rest.length)
              writes := sink.writes + 1 }
            same _ rfl
          refine ⟨after, sent, kept, ?_⟩
          rw [all, List.append_assoc, List.cons_append, List.take_append_drop]

end Sink

end NimbleProxy.Theory
