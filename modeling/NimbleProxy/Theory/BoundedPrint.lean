/-
# Theory.BoundedPrint -- printing piece by piece into a buffer that may be too small

A buffer of `cap` bytes at `buf` is filled from its start. `snprintf` puts a terminator
behind what it prints, and cuts off what does not fit; the cursor is then advanced by
what was printed and never over the terminator (`bump`). Single characters are put
without a terminator (`put`), so there has to be room for them.

Each piece of the program is a function of the writer. `Prints` says two things of it:
whatever room there is, it stays in the buffer, leaves what is in front of the cursor and
moves the cursor over no NUL (`Step`); and if its text fits with `slack` bytes to spare, its
text is what it prints. Pieces are put together by `Prints.comp`, `Prints.when`,
`Prints.guard` and `Prints.foldl`, so that nothing has to be said about where a
cut can fall.

Where it has to be said, `Yields` gives the text that is in the buffer after a piece, as a
function of the one before it: `emit` for `snprintf`, which cuts, and the bytes behind it
for what is put.
-/
import NimbleProxy.Theory.Bytes

namespace NimbleProxy.Theory.BoundedPrint

set_option autoImplicit false

structure Writer where
  mem : Memory
  /-- the cursor, from the start of the buffer -/
  pos : Nat

/-- The room behind the cursor. -/
def rem (cap : Nat) (w : Writer) : Nat := cap - w.pos

/-- `snprintf` of a text into `size` bytes. -/
def snprintf (mem : Memory) (at_ size : Nat) (text : List UInt8) : Memory :=
  if size = 0 then mem else mem.store at_ (text.take (size - 1) ++ [0])

/-- The cursor after `snprintf` has returned `n`. -/
def bump (cap n : Nat) (w : Writer) : Writer :=
  let r := rem cap w
  if r = 0 then w else { w with pos := w.pos + if n < r then n else r - 1 }

def printf (buf cap : Nat) (text : List UInt8) (w : Writer) : Writer :=
  bump cap text.length { w with mem := snprintf w.mem (buf + w.pos) (rem cap w) text }

/-- `*p++ = c` for each of these. -/
def put (buf : Nat) (bytes : List UInt8) (w : Writer) : Writer :=
  ⟨w.mem.store (buf + w.pos) bytes, w.pos + bytes.length⟩

/-- `w'` is `w` with some bytes printed into the rest of the buffer, and no NUL. -/
structure Step (buf cap : Nat) (w w' : Writer) : Prop where
  le : w.pos ≤ w'.pos
  fits : w'.pos ≤ cap
  frame : ∀ i, i < buf + w.pos ∨ buf + cap ≤ i → w'.mem i = w.mem i
  noNul : ∀ i, buf + w.pos ≤ i → i < buf + w'.pos → w'.mem i ≠ 0

/-- A piece that needs room for `need` bytes and prints `text`. -/
structure Prints (buf cap slack need : Nat) (f : Writer → Writer) (text : List UInt8) : Prop where
  step : ∀ w, w.pos + need ≤ cap → Step buf cap w (f w)
  exact : ∀ w, w.pos + text.length + slack ≤ cap →
    (f w).pos = w.pos + text.length ∧ (f w).mem.load (buf + w.pos) text.length = text

variable {buf cap slack need n : Nat} {w w' w'' : Writer} {f g : Writer → Writer}
  {text front back bytes : List UInt8}

/-! ## Steps -/

theorem Step.refl (fits : w.pos ≤ cap) : Step buf cap w w :=
  ⟨Nat.le_refl _, fits, fun _ _ => rfl, fun _ low high => absurd high (Nat.not_lt.mpr low)⟩

theorem Step.trans (first : Step buf cap w w') (second : Step buf cap w' w'') :
    Step buf cap w w'' := by
  have forward := first.le
  refine ⟨first.le.trans second.le, second.fits, fun i outside => ?_, fun i low high => ?_⟩
  · rw [second.frame i (by omega), first.frame i outside]
  · by_cases here : i < buf + w'.pos
    · rw [second.frame i (.inl here)]
      exact first.noNul i low here
    · exact second.noNul i (Nat.le_of_not_lt here) high

/-- What is stored where it was put. -/
theorem store_ne_zero {mem : Memory} {at_ i : Nat} (noNul : 0 ∉ bytes) (low : at_ ≤ i)
    (high : i < at_ + bytes.length) : mem.store at_ bytes i ≠ 0 := by
  have inside : i - at_ < bytes.length := by omega
  have stored : mem.store at_ bytes i = bytes[i - at_] := by
    simp [Memory.store, low, List.getElem?_eq_getElem inside]
  rw [stored]
  intro zero
  exact noNul (zero ▸ List.getElem_mem inside)

theorem step_put (noNul : 0 ∉ bytes) (fits : w.pos + bytes.length ≤ cap) :
    Step buf cap w (put buf bytes w) := by
  refine ⟨Nat.le_add_right _ _, fits, fun i outside => ?_, fun i low high => ?_⟩
  · rcases outside with below | beyond
    · exact Memory.store_below below
    · exact Memory.store_beyond (by omega)
  · exact store_ne_zero noNul low (by simpa [put, Nat.add_assoc] using high)

/-- A terminator at the cursor. -/
def terminate (buf : Nat) (w : Writer) : Writer := { w with mem := w.mem.store (buf + w.pos) [0] }

theorem step_terminate (room : w.pos < cap) : Step buf cap w (terminate buf w) := by
  refine ⟨Nat.le_refl _, room.le, fun i outside => ?_,
    fun _ low high => absurd high (Nat.not_lt.mpr low)⟩
  rcases outside with below | beyond
  · exact Memory.store_below below
  · exact Memory.store_beyond (by rw [List.length_singleton]; omega)

/-- `printf` in a buffer with room: what fits is put, and a terminator behind it. -/
theorem printf_eq (room : w.pos < cap) :
    printf buf cap text w = terminate buf (put buf (text.take (rem cap w - 1)) w) := by
  have some_ : rem cap w ≠ 0 := Nat.sub_ne_zero_of_lt room
  have bumped : printf buf cap text w =
      { mem := snprintf w.mem (buf + w.pos) (rem cap w) text
        pos := w.pos + if text.length < rem cap w then text.length else rem cap w - 1 } :=
    if_neg some_
  have cut : (if text.length < rem cap w then text.length else rem cap w - 1) =
      (text.take (rem cap w - 1)).length := by
    rw [List.length_take]
    split <;> omega
  rw [bumped, snprintf, if_neg some_, cut, Memory.store_append, Nat.add_assoc]
  rfl

theorem printf_full (full : ¬ w.pos < cap) : printf buf cap text w = w := by
  have zero : rem cap w = 0 := Nat.sub_eq_zero_of_le (Nat.le_of_not_lt full)
  have stays : printf buf cap text w =
      { w with mem := snprintf w.mem (buf + w.pos) (rem cap w) text } := if_pos zero
  rw [stays, snprintf, if_pos zero]

theorem step_printf (noNul : 0 ∉ text) (fits : w.pos ≤ cap) :
    Step buf cap w (printf buf cap text w) := by
  by_cases room : w.pos < cap
  · have length : (text.take (cap - w.pos - 1)).length ≤ cap - w.pos - 1 :=
      List.length_take_le _ _
    have short : w.pos + (text.take (rem cap w - 1)).length < cap := by
      unfold rem
      omega
    rw [printf_eq room]
    exact (step_put (fun mem => noNul (List.mem_of_mem_take mem)) short.le).trans
      (step_terminate short)
  · rw [printf_full room]
    exact Step.refl fits

/-! ## Pieces -/

/-- What stands in front of the cursor stays. -/
theorem Step.load (step : Step buf cap w w') {at_ : Nat} (front : at_ + n ≤ buf + w.pos) :
    w'.mem.load at_ n = w.mem.load at_ n :=
  Memory.load_congr fun i _ high => step.frame i (.inl (by omega))

theorem prints_printf (noNul : 0 ∉ text) (positive : 0 < slack) :
    Prints buf cap slack 0 (printf buf cap text) text := by
  refine ⟨fun w fits => step_printf noNul fits, fun w fits => ?_⟩
  have whole : text.take (rem cap w - 1) = text := List.take_of_length_le (by unfold rem; omega)
  rw [printf_eq (by omega), whole]
  have terminated : Step buf cap (put buf text w) (terminate buf (put buf text w)) :=
    step_terminate (by simp only [put]; omega)
  refine ⟨rfl, ?_⟩
  rw [terminated.load (by simp only [put]; omega)]
  exact Memory.load_store w.mem (buf + w.pos) text

theorem prints_put (noNul : 0 ∉ bytes) :
    Prints buf cap slack bytes.length (put buf bytes) bytes :=
  ⟨fun _ fits => step_put noNul fits, fun w _ => ⟨rfl, Memory.load_store w.mem _ bytes⟩⟩

theorem prints_id : Prints buf cap slack 0 id [] :=
  ⟨fun _ fits => Step.refl fits, fun _ _ => ⟨rfl, rfl⟩⟩

/-- **One piece after the other.** -/
theorem Prints.comp (first : Prints buf cap slack need f front)
    (second : Prints buf cap slack 0 g back) :
    Prints buf cap slack need (fun w => g (f w)) (front ++ back) := by
  refine ⟨fun w fits => ?_, fun w fits => ?_⟩
  · have step := first.step w fits
    exact step.trans (second.step (f w) step.fits)
  · rw [List.length_append] at fits ⊢
    obtain ⟨pos, load⟩ := first.exact w (by omega)
    obtain ⟨pos', load'⟩ := second.exact (f w) (by omega)
    have behind := second.step (f w) (by omega)
    refine ⟨by omega, ?_⟩
    rw [Memory.load_append, behind.load (by omega), load, Nat.add_assoc, ← pos, load']

theorem Prints.weaken (piece : Prints buf cap slack need f text) (le : need ≤ n) :
    Prints buf cap slack n f text :=
  ⟨fun w fits => piece.step w (by omega), piece.exact⟩

theorem Prints.when (piece : Prints buf cap slack 0 f text) (p : Prop) [Decidable p] :
    Prints buf cap slack 0 (fun w => if p then f w else w) (if p then text else []) := by
  split
  · exact piece
  · exact prints_id

/-- **A piece behind a check of the room.** The check has to ask for what the piece needs, and
for no more than there is when its text fits. -/
theorem Prints.guard (piece : Prints buf cap slack need f text) (enough : need ≤ n)
    (passes : n ≤ text.length + slack) :
    Prints buf cap slack 0 (fun w => if n ≤ rem cap w then f w else w) text := by
  refine ⟨fun w fits => ?_, fun w fits => ?_⟩
  · split
    · rename_i room
      apply piece.step w
      unfold rem at room
      omega
    · exact Step.refl fits
  · rw [if_pos (by unfold rem; omega)]
    exact piece.exact w fits

/-- **A loop.** -/
theorem Prints.foldl {α : Type*} {body : α → Writer → Writer} {item : α → List UInt8} (xs : List α)
    (each : ∀ x ∈ xs, Prints buf cap slack 0 (body x) (item x)) :
    Prints buf cap slack 0 (fun w => xs.foldl (fun w x => body x w) w) (xs.flatMap item) := by
  induction xs with
  | nil => exact prints_id
  | cons x rest ih =>
      have tail := ih fun y mem => each y (List.mem_cons_of_mem x mem)
      exact (each x List.mem_cons_self).comp tail

/-! ## The text in the buffer -/

/-- The buffer has this text up to the cursor. -/
structure Contains (buf cap : Nat) (w : Writer) (out : List UInt8) : Prop where
  pos : w.pos = out.length
  fits : out.length ≤ cap
  load : w.mem.load buf out.length = out

/-- `snprintf` behind `out`. -/
def emit (cap : Nat) (text out : List UInt8) : List UInt8 :=
  out ++ text.take (cap - out.length - 1)

/-- A piece that needs room for `need` bytes makes `g out` of the text `out`. -/
def Yields (buf cap need : Nat) (f : Writer → Writer) (g : List UInt8 → List UInt8) : Prop :=
  ∀ w out, Contains buf cap w out → out.length + need ≤ cap → Contains buf cap (f w) (g out)

section Yields

variable {g h : List UInt8 → List UInt8} {out : List UInt8}

theorem Contains.put (contains : Contains buf cap w out) (room : out.length + bytes.length ≤ cap) :
    Contains buf cap (put buf bytes w) (out ++ bytes) := by
  refine ⟨?_, by rwa [List.length_append], ?_⟩
  · rw [List.length_append, ← contains.pos]
    rfl
  · have kept : (w.mem.store (buf + w.pos) bytes).load buf out.length = out := by
      rw [Memory.load_store_apart (.inl (by rw [contains.pos])), contains.load]
    have stored := Memory.load_store w.mem (buf + w.pos) bytes
    rw [List.length_append, Memory.load_append]
    exact congrArg₂ _ kept (contains.pos ▸ stored)

theorem Contains.terminate (contains : Contains buf cap w out) :
    Contains buf cap (terminate buf w) out := by
  refine ⟨contains.pos, contains.fits, ?_⟩
  rw [BoundedPrint.terminate, Memory.load_store_apart (.inl (by rw [contains.pos])), contains.load]

theorem yields_printf (text : List UInt8) :
    Yields buf cap 0 (printf buf cap text) (emit cap text) := by
  intro w out contains _
  by_cases room : w.pos < cap
  · have amount : rem cap w - 1 = cap - out.length - 1 := by rw [rem, contains.pos]
    have le : (text.take (cap - out.length - 1)).length ≤ cap - out.length - 1 :=
      List.length_take_le _ _
    rw [printf_eq room, amount, emit]
    exact (contains.put (by have := contains.fits; omega)).terminate
  · have full : cap - out.length - 1 = 0 := by
      rw [← contains.pos]
      omega
    rw [printf_full room, emit, full, List.take_zero, List.append_nil]
    exact contains

theorem yields_put (bytes : List UInt8) :
    Yields buf cap bytes.length (put buf bytes) (fun out => out ++ bytes) :=
  fun _ _ contains room => contains.put room

theorem yields_id : Yields buf cap 0 id id := fun _ _ contains _ => contains

theorem Yields.comp {f' : Writer → Writer} (first : Yields buf cap need f g)
    (second : Yields buf cap 0 f' h) : Yields buf cap need (fun w => f' (f w)) fun out => h (g out) := by
  intro w out contains room
  have after := first w out contains room
  exact second _ _ after after.fits

theorem Yields.congr (piece : Yields buf cap need f g)
    (same : ∀ out : List UInt8, out.length ≤ cap → g out = h out) : Yields buf cap need f h := by
  intro w out contains room
  rw [← same out contains.fits]
  exact piece w out contains room

theorem Yields.when (piece : Yields buf cap 0 f g) (p : Prop) [Decidable p] :
    Yields buf cap 0 (fun w => if p then f w else w) fun out => if p then g out else out := by
  split
  · exact piece
  · exact yields_id

theorem Yields.guard (piece : Yields buf cap need f g) (enough : need ≤ n) :
    Yields buf cap 0 (fun w => if n ≤ rem cap w then f w else w)
      fun out => if n ≤ cap - out.length then g out else out := by
  intro w out contains _
  dsimp only
  rw [rem, contains.pos]
  split
  · have := contains.fits
    exact piece w out contains (by omega)
  · exact contains

theorem Yields.foldl {α : Type*} {body : α → Writer → Writer}
    {item : α → List UInt8 → List UInt8} (xs : List α)
    (each : ∀ x ∈ xs, Yields buf cap 0 (body x) (item x)) :
    Yields buf cap 0 (fun w => xs.foldl (fun w x => body x w) w)
      fun out => xs.foldl (fun out x => item x out) out := by
  induction xs with
  | nil => exact yields_id
  | cons x rest ih =>
      have tail := ih fun y mem => each y (List.mem_cons_of_mem x mem)
      exact (each x List.mem_cons_self).comp tail

/-- **What a program leaves in an empty buffer.** -/
theorem Yields.run (whole : Yields buf cap 0 f g) (mem : Memory) :
    (f ⟨mem, 0⟩).mem.load buf (f ⟨mem, 0⟩).pos = g [] ∧ (g []).length ≤ cap := by
  have start : Contains buf cap ⟨mem, 0⟩ [] := ⟨rfl, Nat.zero_le cap, rfl⟩
  have after := whole _ _ start (Nat.zero_le cap)
  exact ⟨by rw [after.pos, after.load], after.fits⟩

/-! ### Cuts -/

theorem emit_fits (room : out.length + text.length < cap) : emit cap text out = out ++ text := by
  rw [emit, List.take_of_length_le (by omega)]

/-- Behind a cut there is room for the terminator and nothing else. -/
theorem emit_cut (room : out.length < cap) (cut : cap ≤ out.length + text.length) :
    (emit cap text out).length + 1 = cap := by
  rw [emit, List.length_append, List.length_take]
  omega

theorem emit_nil : emit cap [] out = out := by simp [emit]

theorem emit_emit (fits : out.length ≤ cap) (front back : List UInt8) :
    emit cap back (emit cap front out) = emit cap (front ++ back) out := by
  simp only [emit, List.append_assoc, List.take_append, List.length_append, List.length_take]
  congr 3
  omega

/-- **Texts that are printed one after the other are cut as one.** -/
theorem Yields.emits {f' : Writer → Writer} (first : Yields buf cap 0 f (emit cap front))
    (second : Yields buf cap 0 f' (emit cap back)) :
    Yields buf cap 0 (fun w => f' (f w)) (emit cap (front ++ back)) :=
  (first.comp second).congr fun _ fits => emit_emit fits front back

end Yields

/-! ## One call -/

/-- What is taken of a buffer that one `snprintf` has filled: `n < cap ? n : cap - 1` bytes. -/
def taken (cap : Nat) (text : List UInt8) : List UInt8 :=
  (text.take (cap - 1) ++ [0]).take (if text.length < cap then text.length else cap - 1)

theorem taken_eq (cap : Nat) (text : List UInt8) : taken cap text = text.take (cap - 1) := by
  have length : (if text.length < cap then text.length else cap - 1) =
      (text.take (cap - 1)).length := by
    rw [List.length_take]
    split <;> omega
  rw [taken, length, List.take_left']
  rfl

theorem taken_fits (fits : text.length < cap) : taken cap text = text := by
  rw [taken_eq]
  exact List.take_of_length_le (Nat.le_pred_of_lt fits)

/-! ## The whole text -/

/-- What a program printed that starts with an empty buffer. -/
theorem Prints.run (whole : Prints buf cap slack 0 f text) (mem : Memory) :
    let after := f ⟨mem, 0⟩
    after.pos ≤ cap ∧ (∀ i, i < buf ∨ buf + cap ≤ i → after.mem i = mem i) ∧
      0 ∉ after.mem.load buf after.pos ∧
      (text.length + slack ≤ cap → after.mem.load buf after.pos = text) := by
  dsimp only
  have step := whole.step ⟨mem, 0⟩ (Nat.zero_le cap)
  refine ⟨step.fits, step.frame, fun zero => ?_, fun fits => ?_⟩
  · obtain ⟨i, inside, isZero⟩ := List.mem_map.mp zero
    rw [List.mem_range] at inside
    exact step.noNul (buf + i) (Nat.le_add_right _ _) (by omega) isZero
  · obtain ⟨pos, load⟩ := whole.exact ⟨mem, 0⟩ (by simpa using fits)
    rw [Nat.zero_add] at pos
    rw [pos]
    exact load

end NimbleProxy.Theory.BoundedPrint
