/-
# Theory.ChunkedPrint -- printing into a buffer that is sent when it is nearly full

A text that is longer than the buffer is sent in chunks: in front of each item, if less than a
reserve is left, the buffer is sent and printing goes on at its start. What has been sent and
what is in the buffer are together the text so far (`Printed`), with a bound on what is in the
buffer. An item that is not longer than the reserve fits behind `flush`, wherever the last
chunk ended.
-/
import NimbleProxy.Theory.OffsetPrint

namespace NimbleProxy.Theory.BoundedPrint

set_option autoImplicit false

structure Chunks where
  w : Writer
  /-- the chunks that were sent -/
  sent : List (List UInt8)

/-- What is in the buffer is sent. -/
def Chunks.send (buf : Nat) (c : Chunks) : List (List UInt8) := c.sent ++ [c.w.mem.load buf c.w.pos]

/-- `if (p > cap - reserve) { send(buf, p); p = 0; }`. -/
def flush (buf cap reserve : Nat) (c : Chunks) : Chunks :=
  if cap - reserve < c.w.pos then ⟨⟨c.w.mem, 0⟩, c.send buf⟩ else c

/-- This text was sent or is in the buffer, which has at most `most` bytes of it. No chunk was empty,
and nothing outside of the buffer has changed. -/
def Printed (buf cap : Nat) (before : Memory) (most : Nat) (c : Chunks) (text : List UInt8) : Prop :=
  ∃ out, Written buf cap before c.w out ∧ out.length ≤ most ∧ c.sent.flatten ++ out = text ∧
    [] ∉ c.sent

section Chunks

variable {buf cap most n : Nat} {before : Memory} {w : Writer} {c : Chunks}
  {out bytes front text : List UInt8}

theorem Written.put (written : Written buf cap before w out) (fits : out.length + bytes.length < cap) :
    Written buf cap before (put buf bytes w) (out ++ bytes) := by
  have contains : Contains buf cap w out := ⟨written.pos, written.room.le, written.load⟩
  have after : Contains buf cap (BoundedPrint.put buf bytes w) (out ++ bytes) := contains.put fits.le
  refine ⟨after.pos, by rwa [List.length_append], after.load, fun i outside => ?_⟩
  have at_ := written.pos
  show w.mem.store (buf + w.pos) bytes i = before i
  rcases outside with below | beyond
  · rw [Memory.store_below (by omega)]
    exact written.frame i (.inl below)
  · rw [Memory.store_beyond (by omega)]
    exact written.frame i (.inr beyond)

/-- Printing goes on at the start of the buffer. -/
theorem Written.restart (written : Written buf cap before w out) :
    Written buf cap before ⟨w.mem, 0⟩ [] :=
  ⟨rfl, Nat.lt_of_le_of_lt (Nat.zero_le _) written.room, rfl, written.frame⟩

theorem printed_start (buf : Nat) (some_ : 0 < cap) (mem : Memory) : Printed buf cap mem 0 ⟨⟨mem, 0⟩, []⟩ [] :=
  ⟨[], written_start some_ mem, Nat.le_refl 0, rfl, List.not_mem_nil⟩

theorem Printed.mono (printed : Printed buf cap before most c text) (le : most ≤ n) :
    Printed buf cap before n c text := by
  obtain ⟨out, written, bound, all, some_⟩ := printed
  exact ⟨out, written, bound.trans le, all, some_⟩

/-- **A text that fits.** -/
theorem Printed.append (printed : Printed buf cap before most c front) (small : cap < 2 ^ 32)
    (text : List UInt8) (fits : most + text.length < cap) :
    Printed buf cap before (most + text.length) { c with w := append buf cap text c.w }
      (front ++ text) := by
  obtain ⟨out, written, bound, rfl, some_⟩ := printed
  refine ⟨out ++ text, written.append small (by omega), ?_, (List.append_assoc _ _ _).symm, some_⟩
  rw [List.length_append]
  exact Nat.add_le_add_right bound _

theorem Printed.put (printed : Printed buf cap before most c front) (bytes : List UInt8)
    (fits : most + bytes.length < cap) :
    Printed buf cap before (most + bytes.length) { c with w := put buf bytes c.w } (front ++ bytes) := by
  obtain ⟨out, written, bound, rfl, some_⟩ := printed
  refine ⟨out ++ bytes, written.put (by omega), ?_, (List.append_assoc _ _ _).symm, some_⟩
  rw [List.length_append]
  exact Nat.add_le_add_right bound _

/-- What is sent is the text. -/
theorem Printed.send (printed : Printed buf cap before most c text) :
    (c.send buf).flatten = text ∧ (0 < c.w.pos → [] ∉ c.send buf) := by
  obtain ⟨out, written, -, rfl, some_⟩ := printed
  rw [Chunks.send, written.pos, written.load]
  refine ⟨by rw [List.flatten_append, List.flatten_singleton], fun pos mem => ?_⟩
  rcases List.mem_append.mp mem with old | last
  · exact some_ old
  · rw [← List.mem_singleton.mp last] at pos
    exact absurd pos (Nat.lt_irrefl 0)

/-- **Behind a flush there is a reserve.** -/
theorem Printed.flush (printed : Printed buf cap before most c text) (reserve : Nat) :
    Printed buf cap before (cap - reserve) (flush buf cap reserve c) text := by
  unfold BoundedPrint.flush
  by_cases full : cap - reserve < c.w.pos
  · obtain ⟨whole, none_⟩ := printed.send
    obtain ⟨out, written, -⟩ := printed
    rw [if_pos full]
    refine ⟨[], written.restart, Nat.zero_le _, ?_, none_ (Nat.zero_lt_of_lt full)⟩
    rw [List.append_nil]
    exact whole
  · obtain ⟨out, written, -, all, some_⟩ := printed
    rw [if_neg full]
    exact ⟨out, written, by rw [← written.pos]; exact Nat.le_of_not_lt full, all, some_⟩

/-- **A loop over items that fit into the reserve.** -/
theorem Printed.foldl {α : Type*} {body : Chunks → α → Chunks} {item : α → List UInt8}
    (each : ∀ c text x, Printed buf cap before most c text →
      Printed buf cap before most (body c x) (text ++ item x))
    (printed : Printed buf cap before most c text) (xs : List α) :
    Printed buf cap before most (xs.foldl body c) (text ++ xs.flatMap item) := by
  induction xs generalizing c text with
  | nil => rwa [List.flatMap_nil, List.append_nil]
  | cons x rest ih =>
      have later := ih (each c text x printed)
      rwa [List.append_assoc, ← List.flatMap_cons] at later

end Chunks

end NimbleProxy.Theory.BoundedPrint
