/-
# Theory.LastValues -- a ring that has the last values of a sequence

Values are put into the cells of a ring one after the other, over the oldest one when it is
full. The value number `i` is in cell `i % size` as long as it is one of the last `size`
(`Holds`). A loop over neighbouring cells from the right start reads the last of them in
order (`Holds.read`).
-/
import Mathlib.Algebra.GroupWithZero.Nat
import Mathlib.Data.List.DropRight
import NimbleProxy.Theory.RingStream

namespace NimbleProxy.Theory.LastValues

set_option autoImplicit false

universe u

variable {α : Type u} {size : Nat}

/-- The ring has the last `size` values. -/
def Holds (cells : Vector α size) (values : List α) : Prop :=
  ∀ i, i < values.length → values.length ≤ i + size → cells[i % size]? = values[i]?

variable {cells : Vector α size} {values : List α} {x : α} {n start : Nat}

theorem holds_nil (cells : Vector α size) : Holds cells [] := by
  intro i inside
  cases inside

/-- **One more value.** -/
theorem Holds.push (holds : Holds cells values) (some_ : 0 < size) (x : α) :
    Holds (cells.setIfInBounds (values.length % size) x) (values ++ [x]) := by
  intro i inside near
  rw [List.length_append, List.length_singleton] at inside near
  rw [Vector.getElem?_setIfInBounds]
  rcases Nat.lt_succ_iff_lt_or_eq.mp inside with old | rfl
  · rw [if_neg (RingStream.mod_ne_of_near old (by omega)), holds i old (by omega), List.getElem?_append_left old]
  · rw [if_pos rfl, if_pos (Nat.mod_lt _ some_), List.getElem?_concat_length]

/-- **The last values.** -/
theorem Holds.read [NeZero size] (holds : Holds cells values) (inRing : n ≤ size)
    (few : n ≤ values.length) (at_ : start % size = (values.length - n) % size) :
    ((List.range n).map fun i => cells.get (Fin.ofNat size (start + i))) = values.rtake n := by
  apply List.ext_getElem?
  intro j
  rw [List.rtake, List.getElem?_drop]
  by_cases inside : j < n
  · have cell : (start + j) % size = (values.length - n + j) % size := by
      rw [Nat.add_mod, at_, ← Nat.add_mod]
    have value := holds (values.length - n + j) (by omega) (by omega)
    rw [← cell] at value
    rw [List.getElem?_map, List.getElem?_range inside, ← value]
    exact (Vector.getElem?_eq_getElem (Nat.mod_lt _ (Nat.pos_of_neZero size))).symm
  · rw [List.getElem?_eq_none, List.getElem?_eq_none]
    · omega
    · rw [List.length_map, List.length_range]
      omega

end NimbleProxy.Theory.LastValues
