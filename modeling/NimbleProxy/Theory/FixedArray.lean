/-
# Theory.FixedArray -- an array of fixed capacity with a count

The C idiom: storage for `cap` items, of which the first `count` are meant. `list` is what
is meant. Adding to a full array does nothing (`push`); copying a list into one stops when
it is full (`copy`), and so keeps the front of the list, in order (`list_copy`). The bound
on the count is a field, so nothing is ever put behind the storage.
-/
import Mathlib.Data.List.Forall2

namespace NimbleProxy.Theory

set_option autoImplicit false

structure FixedArray (α : Type) (cap : Nat) where
  items : Vector α cap
  count : Nat
  bounded : count ≤ cap

namespace FixedArray

variable {α β : Type} {cap : Nat}

/-- The items that are meant. -/
def list (a : FixedArray α cap) : List α := a.items.toList.take a.count

/-- Storage without items. -/
def cleared (zero : α) (cap : Nat) : FixedArray α cap where
  items := .replicate cap zero
  count := 0
  bounded := Nat.zero_le cap

/-- Forget the items. -/
def reset (a : FixedArray α cap) : FixedArray α cap :=
  { a with
    count := 0
    bounded := Nat.zero_le cap }

/-- Write behind the last item, if there is room. -/
def push (a : FixedArray α cap) (x : α) : FixedArray α cap :=
  if room : a.count < cap then
    { items := a.items.set a.count x
      count := a.count + 1
      bounded := room }
  else a

/-- The loop that copies the items of a list one by one and breaks at the capacity. -/
def copy (f : β → α) : List β → FixedArray α cap → FixedArray α cap
  | [], a => a
  | x :: xs, a => if a.count ≥ cap then a else copy f xs (a.push (f x))

theorem length_list (a : FixedArray α cap) : a.list.length = a.count := by
  rw [list, List.length_take, Vector.length_toList]
  exact Nat.min_eq_left a.bounded

theorem length_list_le (a : FixedArray α cap) : a.list.length ≤ cap :=
  a.length_list ▸ a.bounded

theorem list_of_empty {a : FixedArray α cap} (empty : a.count = 0) : a.list = [] := by
  rw [list, empty, List.take_zero]

theorem list_cleared (zero : α) : (cleared zero cap).list = [] :=
  list_of_empty rfl

theorem list_reset (a : FixedArray α cap) : a.reset.list = [] :=
  list_of_empty rfl

theorem list_eq_nil_iff {a : FixedArray α cap} : a.list = [] ↔ a.count = 0 := by
  rw [← List.length_eq_zero_iff, length_list]

theorem count_push {a : FixedArray α cap} (room : a.count < cap) (x : α) :
    (a.push x).count = a.count + 1 := by
  rw [push, dif_pos room]

/-- The write leaves the items in front of it alone. -/
theorem list_push {a : FixedArray α cap} (room : a.count < cap) (x : α) :
    (a.push x).list = a.list ++ [x] := by
  have inside : a.count < (a.items.set a.count x).toList.length := by
    rw [Vector.length_toList]
    exact room
  rw [push, dif_pos room, list, list, List.take_succ_eq_append_getElem inside]
  congr 1
  · rw [Vector.toList_set, List.take_set_of_le (Nat.le_refl _)]
  · simp

theorem copy_full {a : FixedArray α cap} (full : a.count ≥ cap) (f : β → α) (xs : List β) :
    copy f xs a = a := by
  cases xs with
  | nil => rfl
  | cons x xs => exact if_pos full

/-- **The front of the list is copied, as far as there is room.** -/
theorem list_copy (f : β → α) (xs : List β) (a : FixedArray α cap) :
    (copy f xs a).list = a.list ++ (xs.take (cap - a.count)).map f := by
  induction xs generalizing a with
  | nil => simp [copy]
  | cons x xs ih =>
      by_cases full : a.count ≥ cap
      · rw [copy_full full, Nat.sub_eq_zero_of_le full, List.take_zero, List.map_nil,
          List.append_nil]
      · have room := Nat.lt_of_not_le full
        have left : cap - a.count = (cap - (a.count + 1)) + 1 := by omega
        rw [copy, if_neg full, ih, list_push room, count_push room, left, List.take_succ_cons,
          List.map_cons, List.append_assoc, List.singleton_append]

theorem list_copy_cleared (f : β → α) (xs : List β) (zero : α) :
    (copy f xs (cleared zero cap)).list = (xs.take cap).map f := by
  have empty : (cleared zero cap).count = 0 := rfl
  rw [list_copy, list_cleared, empty, Nat.sub_zero, List.nil_append]

/-- What holds of each item and its copy holds along the front of the list. -/
theorem forall₂_copy {R : β → α → Prop} {f : β → α} (copied : ∀ x, R x (f x)) (xs : List β)
    (zero : α) : List.Forall₂ R (xs.take cap) (copy f xs (cleared zero cap)).list := by
  rw [list_copy_cleared, List.forall₂_map_right_iff, List.forall₂_same]
  exact fun x _ => copied x

end FixedArray

end NimbleProxy.Theory
