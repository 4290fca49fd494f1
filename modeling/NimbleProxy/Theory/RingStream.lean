/-
# Theory.RingStream -- a byte stream whose end is kept in a ring

A producer appends to a stream that nobody keeps whole: a ring of `size` bytes has the
last `size` of them, the byte with position `i` in cell `i % size`. `Holds` is that
relation between ring and stream. `put` writes in at most two pieces, up to the end of
the ring and from its start, and keeps it (`Holds.put`). A read that stays in front of
the end of the ring is a piece of the stream (`Holds.load`).

`Follows` is the reader of such a stream: what it was given so far is the stream from
the position where it began to the one where it goes on. A reader that may be further
behind than the ring is given pieces with gaps; `InOrder` says that it misses nothing
but what the ring has lost, and is given nothing twice.
-/
import NimbleProxy.Theory.Bytes

namespace NimbleProxy.Theory.RingStream

set_option autoImplicit false

/-- A write behind `seq` bytes, in two pieces where the ring ends. -/
def put (size : Nat) (mem : Memory) (seq : Nat) (data : List UInt8) : Memory :=
  let pos := seq % size
  let first := min data.length (size - pos)
  let mem := mem.store pos (data.take first)
  if first < data.length then mem.store 0 (data.drop first) else mem

/-- The ring has the last `size` bytes of the stream. -/
def Holds (size : Nat) (mem : Memory) (stream : List UInt8) : Prop :=
  ∀ i, i < stream.length → stream.length ≤ i + size → stream[i]? = some (mem (i % size))

section Positions

variable {size : Nat}

/-- The cell that is `k` cells after the one of `seq`. -/
theorem add_mod_cases (pos : 0 < size) (seq : Nat) {k : Nat} (near : k ≤ size) :
    (seq + k) % size =
      if seq % size + k < size then seq % size + k else seq % size + k - size := by
  have below : seq % size < size := Nat.mod_lt seq pos
  rw [← Nat.mod_add_mod]
  split
  · rename_i inside
    exact Nat.mod_eq_of_lt inside
  · rename_i past
    rw [Nat.mod_eq_sub_mod (Nat.le_of_not_lt past), Nat.mod_eq_of_lt]
    omega

/-- Positions that are less than a ring apart have different cells. -/
theorem mod_ne_of_near {i j : Nat} (after : i < j) (near : j < i + size) : j % size ≠ i % size := by
  have pos : 0 < size := by omega
  have below : i % size < size := Nat.mod_lt i pos
  obtain ⟨k, rfl⟩ : ∃ k, j = i + k := ⟨j - i, by omega⟩
  rw [add_mod_cases pos i (by omega)]
  split <;> omega

end Positions

section Put

variable {size seq : Nat} {mem : Memory} {stream data : List UInt8}

theorem store_at {at_ k : Nat} (inside : k < data.length) : mem.store at_ data (at_ + k) = data[k] := by
  unfold Memory.store
  rw [if_pos (by omega), Nat.add_sub_cancel_left, List.getElem?_eq_getElem inside]
  rfl

/-- What is written is found behind `seq`. -/
theorem put_new (pos : 0 < size) (fits : data.length ≤ size) {k : Nat} (inside : k < data.length) :
    put size mem seq data ((seq + k) % size) = data[k] := by
  have below : seq % size < size := Nat.mod_lt seq pos
  rw [add_mod_cases pos seq (by omega)]
  unfold put
  by_cases whole : data.length ≤ size - seq % size
  · rw [Nat.min_eq_left whole, if_neg (Nat.lt_irrefl _), if_pos (by omega), List.take_length]
    exact store_at inside
  · have split : min data.length (size - seq % size) = size - seq % size :=
      Nat.min_eq_right (by omega)
    rw [split, if_pos (by omega)]
    by_cases first : seq % size + k < size
    · rw [if_pos first, Memory.store_beyond (by simp only [List.length_drop]; omega),
        store_at (by simp only [List.length_take]; omega), List.getElem_take]
    · have second : k - (size - seq % size) < (data.drop (size - seq % size)).length := by
        simp only [List.length_drop]
        omega
      have cell : seq % size + k - size = 0 + (k - (size - seq % size)) := by omega
      rw [if_neg first, cell, store_at second, List.getElem_drop]
      congr 1
      omega

/-- A cell that no byte goes to is as before. -/
theorem put_old (pos : 0 < size) (fits : data.length ≤ size) {i : Nat} (inRing : i < size)
    (elsewhere : ∀ k, k < data.length → (seq + k) % size ≠ i) : put size mem seq data i = mem i := by
  have below : seq % size < size := Nat.mod_lt seq pos
  have notFirst : ¬ (seq % size ≤ i ∧ i - seq % size < data.length) := by
    rintro ⟨low, inside⟩
    apply elsewhere _ inside
    rw [add_mod_cases pos seq (by omega), if_pos (by omega)]
    omega
  have first : mem.store (seq % size) (data.take (min data.length (size - seq % size))) i = mem i := by
    rcases Nat.lt_or_ge i (seq % size) with before | after
    · exact Memory.store_below before
    · apply Memory.store_beyond
      simp only [List.length_take]
      omega
  unfold put
  split
  · rename_i wraps
    rw [Memory.store_beyond, first]
    refine Nat.le_of_not_lt fun inside => ?_
    simp only [List.length_drop] at inside
    refine elsewhere (size - seq % size + i) (by omega) ?_
    rw [add_mod_cases pos seq (by omega), if_neg (by omega)]
    omega
  · exact first

/-- **A write keeps the ring.** -/
theorem Holds.put (holds : Holds size mem stream) (pos : 0 < size) (fits : data.length ≤ size) :
    Holds size (RingStream.put size mem stream.length data) (stream ++ data) := by
  intro i within resident
  rw [List.length_append] at within resident
  rcases Nat.lt_or_ge i stream.length with old | new
  · rw [List.getElem?_append_left old, holds i old (by omega),
      put_old pos fits (Nat.mod_lt i pos)]
    intro k inside
    exact mod_ne_of_near (by omega) (by omega)
  · obtain ⟨k, rfl⟩ : ∃ k, i = stream.length + k := ⟨i - stream.length, by omega⟩
    have inside : k < data.length := by omega
    rw [put_new pos fits inside, List.getElem?_append_right new, Nat.add_sub_cancel_left,
      List.getElem?_eq_getElem inside]

/-- **A read is a piece of the stream** if it begins at a byte that is in the ring and ends in
front of the end of the ring. -/
theorem Holds.load (holds : Holds size mem stream) (pos : 0 < size) {start n : Nat}
    (within : start + n ≤ stream.length) (resident : stream.length ≤ start + size)
    (contiguous : n ≤ size - start % size) :
    mem.load (start % size) n = (stream.drop start).take n := by
  refine List.ext_getElem? fun k => ?_
  rcases Nat.lt_or_ge k n with inside | beyond
  · have below : start % size < size := Nat.mod_lt start pos
    have cell : (start + k) % size = start % size + k := by
      rw [add_mod_cases pos start (by omega), if_pos (by omega)]
    rw [List.getElem?_take_of_lt inside, List.getElem?_drop, holds (start + k) (by omega) (by omega),
      cell]
    simp [Memory.load, inside]
  · rw [List.getElem?_eq_none (by simpa using beyond),
      List.getElem?_eq_none (by simp only [List.length_take]; omega)]

end Put

/-! ## A reader -/

/-- A reader that began at `origin` and goes on at `next` was given what lies between. -/
structure Follows (stream : List UInt8) (origin next : Nat) (given : List UInt8) : Prop where
  within : next ≤ stream.length
  stream_eq : stream.drop origin = given ++ stream.drop next

section Follows

variable {stream given : List UInt8} {origin next : Nat}

theorem Follows.begin (within : next ≤ stream.length) : Follows stream next next [] :=
  ⟨within, rfl⟩

/-- The stream grows. -/
theorem Follows.grow (follows : Follows stream origin next given) (order : origin ≤ next)
    (data : List UInt8) : Follows (stream ++ data) origin next given := by
  refine ⟨?_, ?_⟩
  · rw [List.length_append]
    exact Nat.le_add_right_of_le follows.within
  · rw [List.drop_append_of_le_length (Nat.le_trans order follows.within),
      List.drop_append_of_le_length follows.within, follows.stream_eq, List.append_assoc]

/-- It is given the next piece. -/
theorem Follows.read (follows : Follows stream origin next given) {n : Nat}
    (within : next + n ≤ stream.length) :
    Follows stream origin (next + n) (given ++ (stream.drop next).take n) := by
  refine ⟨within, ?_⟩
  rw [follows.stream_eq, List.append_assoc, ← List.drop_drop, List.take_append_drop]

end Follows

/-! ## A reader with gaps -/

structure Piece where
  start : Nat
  bytes : List UInt8
  deriving DecidableEq

/-- The position behind a piece. -/
def Piece.stop (piece : Piece) : Nat := piece.start + piece.bytes.length

structure Piece.Of (piece : Piece) (stream : List UInt8) : Prop where
  within : piece.stop ≤ stream.length
  bytes_eq : piece.bytes = (stream.drop piece.start).take piece.bytes.length

/-- The position behind the last of some pieces, `pos` if there are none. -/
def reach : Nat → List Piece → Nat
  | pos, [] => pos
  | _, piece :: rest => reach piece.stop rest

/-- Pieces of the stream from `pos` on, one behind the other. What is left out in front of a
piece is no longer in the ring. -/
def InOrder (size : Nat) (stream : List UInt8) : Nat → List Piece → Prop
  | _, [] => True
  | pos, piece :: rest =>
      pos ≤ piece.start ∧ (pos < piece.start → piece.start + size ≤ stream.length) ∧
        piece.Of stream ∧ InOrder size stream piece.stop rest

section Pieces

variable {size pos : Nat} {stream : List UInt8} {pieces : List Piece} {piece : Piece}

theorem reach_append (pos : Nat) (pieces rest : List Piece) :
    reach pos (pieces ++ rest) = reach (reach pos pieces) rest := by
  induction pieces generalizing pos with
  | nil => rfl
  | cons first pieces ih => exact ih first.stop

theorem inOrder_append {rest : List Piece} :
    InOrder size stream pos (pieces ++ rest) ↔
      InOrder size stream pos pieces ∧ InOrder size stream (reach pos pieces) rest := by
  induction pieces generalizing pos with
  | nil => simp [InOrder, reach]
  | cons first pieces ih => simp only [List.cons_append, InOrder, reach, ih, and_assoc]

theorem Piece.Of.grow (of : piece.Of stream) (data : List UInt8) : piece.Of (stream ++ data) := by
  obtain ⟨within, same⟩ := of
  unfold Piece.stop at within
  refine ⟨?_, ?_⟩
  · rw [List.length_append]
    exact Nat.le_add_right_of_le within
  · rw [List.drop_append_of_le_length (by omega), List.take_append_of_le_length, ← same]
    rw [List.length_drop]
    omega

/-- The stream grows. -/
theorem InOrder.grow (inOrder : InOrder size stream pos pieces) (data : List UInt8) :
    InOrder size (stream ++ data) pos pieces := by
  induction pieces generalizing pos with
  | nil => trivial
  | cons first pieces ih =>
      obtain ⟨after, lost, of, rest⟩ := inOrder
      refine ⟨after, fun gap => ?_, of.grow data, ih rest⟩
      rw [List.length_append]
      exact Nat.le_add_right_of_le (lost gap)

/-- A piece that begins in front of where the ones before it end. -/
theorem not_inOrder_of_overlap (overlap : piece.start < reach pos pieces) :
    ¬ InOrder size stream pos (pieces ++ [piece]) := by
  rw [inOrder_append]
  rintro ⟨_, after, _⟩
  omega

end Pieces

end NimbleProxy.Theory.RingStream
