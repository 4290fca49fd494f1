/-
# Theory.OffsetPrint -- printing with an offset that nothing holds back

`off += snprintf(buf + off, cap - off, ..)` advances by the length of the text, whether it has
fitted or not, and the room that is left is computed without a sign: once the offset is
beyond the buffer, it is enormous. So a program that prints like this must never be short of
room. `Written` is that it has not been so far; each text that fits keeps it
(`Written.append`).

A loop that goes on only while there is a reserve keeps it as well, if no item is longer than
the reserve (`Written.printEach`). It leaves out the items at the end for which there was no
reserve.
-/
import NimbleProxy.Theory.BoundedPrint
import NimbleProxy.Theory.Json

namespace NimbleProxy.Theory.BoundedPrint

open NimbleProxy.Theory.Json (separated)

set_option autoImplicit false

/-- `cap - off` as a `size_t` of 32 bits. -/
def sizeLeft (cap off : Nat) : Nat := (((cap : Int) - off) % 2 ^ 32).toNat

/-- `off += snprintf(buf + off, cap - off, ..)`. -/
def append (buf cap : Nat) (text : List UInt8) (w : Writer) : Writer :=
  ⟨snprintf w.mem (buf + w.pos) (sizeLeft cap w.pos) text, w.pos + text.length⟩

/-- A loop over the items that are not skipped, with commas between them, that goes on while more
than `reserve` bytes are left. -/
def printEach {α : Type*} (buf cap reserve : Nat) (skip : α → Bool) (text : α → List UInt8) :
    Bool → List α → Writer → Writer
  | _, [], w => w
  | first, x :: rest, w =>
      if w.pos + reserve < cap then
        if skip x then printEach buf cap reserve skip text first rest w
        else
          printEach buf cap reserve skip text false rest
            (append buf cap ((if first then [] else [44]) ++ text x) w)
      else w

/-- These texts with commas between them, and in front if they are not the first. -/
def listed (first : Bool) (texts : List (List UInt8)) : List UInt8 :=
  if first then separated texts else texts.flatMap (44 :: ·)

/-- The buffer has this text, with room for a terminator, and nothing outside has changed. -/
structure Written (buf cap : Nat) (before : Memory) (w : Writer) (out : List UInt8) : Prop where
  pos : w.pos = out.length
  room : out.length < cap
  load : w.mem.load buf out.length = out
  frame : ∀ i, i < buf ∨ buf + cap ≤ i → w.mem i = before i

section Offset

variable {α : Type*} {buf cap reserve most : Nat} {before : Memory} {w : Writer}
  {out text : List UInt8} {skip : α → Bool} {item : α → List UInt8} {first : Bool}

theorem sizeLeft_eq (small : cap < 2 ^ 32) {off : Nat} (inside : off ≤ cap) :
    sizeLeft cap off = cap - off := by
  unfold sizeLeft
  omega

theorem listed_cons (first : Bool) (text : List UInt8) (texts : List (List UInt8)) :
    listed first (text :: texts) = (if first then [] else [44]) ++ text ++ listed false texts := by
  cases first <;> rfl

theorem listed_nil (first : Bool) : listed first [] = [] := by cases first <;> rfl

theorem written_start (some_ : 0 < cap) (mem : Memory) : Written buf cap mem ⟨mem, 0⟩ [] :=
  ⟨rfl, some_, rfl, fun _ _ => rfl⟩

/-- **A text that fits.** -/
theorem Written.append (written : Written buf cap before w out) (small : cap < 2 ^ 32)
    (fits : out.length + text.length < cap) :
    Written buf cap before (append buf cap text w) (out ++ text) := by
  have left : sizeLeft cap w.pos = rem cap w := by
    rw [sizeLeft_eq small (by rw [written.pos]; omega), rem]
  -- with room it is what `printf` does
  have same : BoundedPrint.append buf cap text w = printf buf cap text w := by
    rw [BoundedPrint.append, left, printf, bump, if_neg]
    · have whole : text.length < rem cap w := by
        rw [rem, written.pos]
        omega
      exact congrArg _ (congrArg _ (if_pos whole).symm)
    · show rem cap w ≠ 0
      rw [rem, written.pos]
      omega
  have contains : Contains buf cap w out := ⟨written.pos, written.room.le, written.load⟩
  have after := yields_printf text w out contains (Nat.le_of_lt written.room)
  rw [emit_fits fits] at after
  rw [same]
  refine ⟨after.pos, by rwa [List.length_append], after.load, fun i outside => ?_⟩
  have whole : text.take (rem cap w - 1) = text := by
    apply List.take_of_length_le
    rw [rem, written.pos]
    omega
  have at_ := written.pos
  rw [printf_eq (by rw [at_]; exact written.room), whole]
  show ((w.mem.store (buf + w.pos) text).store (buf + (w.pos + text.length)) [0]) i = before i
  rcases outside with below | beyond
  · rw [Memory.store_below (by omega), Memory.store_below (by omega)]
    exact written.frame i (.inl below)
  · rw [Memory.store_beyond (by rw [List.length_singleton]; omega), Memory.store_beyond (by omega)]
    exact written.frame i (.inr beyond)

variable (skip item first) in
/-- **A loop with a reserve.** -/
theorem Written.printEach (written : Written buf cap before w out) (small : cap < 2 ^ 32)
    (enough : most ≤ reserve) (xs : List α)
    (each : ∀ x ∈ xs, skip x = false → (item x).length + 1 ≤ most) :
    ∃ k, let shown := (xs.filter fun x => !skip x).take k
      let after := out ++ listed first (shown.map item)
      Written buf cap before (printEach buf cap reserve skip item first xs w) after ∧
        (k < (xs.filter fun x => !skip x).length → cap ≤ after.length + reserve) ∧
        (after.length ≤ out.length ∨ after.length + reserve < cap + most) := by
  induction xs generalizing first w out with
  | nil =>
      refine ⟨0, ?_, nofun, .inl ?_⟩
      · simpa [BoundedPrint.printEach, listed_nil] using written
      · simp [listed_nil]
  | cons x rest ih =>
      have each' := fun y mem => each y (List.mem_cons_of_mem x mem)
      rw [BoundedPrint.printEach]
      by_cases room : w.pos + reserve < cap
      · rw [if_pos room]
        cases skipped : skip x with
        | true =>
            rw [if_pos rfl, List.filter_cons_of_neg (by simp [skipped])]
            exact ih first written each'
        | false =>
            have size := each x List.mem_cons_self skipped
            have comma : (if first then [] else [(44 : UInt8)]).length ≤ 1 := by cases first <;> decide
            rw [written.pos] at room
            have fits : out.length + ((if first then [] else [44]) ++ item x).length < cap := by
              rw [List.length_append]
              omega
            have grown : (out ++ ((if first then [] else [44]) ++ item x)).length ≤
                out.length + most := by
              rw [List.length_append, List.length_append]
              omega
            obtain ⟨k, done, reached, bound⟩ := ih false (written.append small fits) each'
            rw [if_neg Bool.false_ne_true, List.filter_cons_of_pos (by simp [skipped])]
            refine ⟨k + 1, ?_⟩
            simp only [List.take_succ_cons, List.map_cons, listed_cons first, List.length_cons,
              Nat.add_lt_add_iff_right]
            rw [← List.append_assoc]
            refine ⟨done, reached, .inr ?_⟩
            rcases bound with stays | near
            · omega
            · exact near
      · rw [if_neg room]
        refine ⟨0, ?_, fun _ => ?_, .inl ?_⟩
        · simpa [listed_nil] using written
        · simp only [List.take_zero, List.map_nil, listed_nil, List.append_nil]
          rw [written.pos] at room
          omega
        · simp [listed_nil]

end Offset

end NimbleProxy.Theory.BoundedPrint
