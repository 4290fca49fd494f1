/-
# Theory.SeenArray -- a loop that does something once for each value

The C idiom: an array of what has been met. Each round looks for its value among the cells that
are in use, goes on if it is there, and otherwise puts it into the next cell and processes it.
With as many cells as there are values each value is processed once, where it occurs first
(`processed_write`, `processed_writeIfRoom`). With fewer cells a loop that does not look at the
end of the array leaves it, and one that does processes what it cannot remember again each time
(`count_processed_writeIfRoom`).
-/
import Mathlib.Data.List.Nodup

namespace NimbleProxy.Theory.SeenArray

set_option autoImplicit false

universe u

variable {α : Type u}

/-- `seen[n++] = x`, none behind the last of `cap` cells. -/
def write (cap : Nat) (seen : List α) (x : α) : Option (List α) :=
  if seen.length < cap then some (seen ++ [x]) else none

/-- `if (n < cap) seen[n++] = x`. -/
def writeIfRoom (cap : Nat) (seen : List α) (x : α) : Option (List α) :=
  if seen.length < cap then write cap seen x else some seen

theorem writeIfRoom_of_lt {cap : Nat} {seen : List α} {x : α} (room : seen.length < cap) :
    writeIfRoom cap seen x = some (seen ++ [x]) := by
  rw [writeIfRoom, if_pos room, write, if_pos room]

variable [DecidableEq α]

/-- The values that the loop processes, none if it leaves the array. -/
def processed (remember : List α → α → Option (List α)) (seen : List α) : List α → Option (List α)
  | [] => some []
  | x :: rest =>
      if x ∈ seen then processed remember seen rest
      else
        match remember seen x with
        | none => none
        | some seen => (processed remember seen rest).map (x :: ·)

/-- The values that have not been seen, each where it occurs first. -/
def fresh (seen xs : List α) : List α := (xs.removeAll seen).eraseDups

/-- `ys` has each value of `xs` once, and no others. -/
def OnceEach (xs ys : List α) : Prop := ∀ x, ys.count x = if x ∈ xs then 1 else 0

section Loop

variable {cap : Nat} {remember : List α → α → Option (List α)} {seen xs ys rest : List α} {x : α}

theorem fresh_nil (seen : List α) : fresh seen [] = [] := rfl

theorem fresh_of_mem (met : x ∈ seen) : fresh seen (x :: rest) = fresh seen rest := by
  have dropped : (x :: rest).removeAll seen = rest.removeAll seen := by
    rw [List.removeAll, List.filter_cons_of_neg (by simp [met])]
    rfl
  rw [fresh, dropped, fresh]

theorem fresh_of_notMem (new : x ∉ seen) :
    fresh seen (x :: rest) = x :: fresh (seen ++ [x]) rest := by
  have kept : (x :: rest).removeAll seen = x :: rest.removeAll seen := by
    rw [List.removeAll, List.filter_cons_of_pos (by simp [new])]
    rfl
  have others : (rest.removeAll seen).filter (fun y => !y == x) = rest.removeAll (seen ++ [x]) := by
    rw [List.removeAll, List.removeAll, List.filter_filter]
    apply List.filter_congr
    intro y _
    by_cases same : y = x <;> simp [same]
  rw [fresh, kept, List.eraseDups_cons, others, fresh]

theorem fresh_nil_left (xs : List α) : fresh [] xs = xs.eraseDups := by
  have all : xs.removeAll [] = xs := List.filter_eq_self.mpr fun _ _ => rfl
  rw [fresh, all]

/-- How often a value is met for the first time. -/
theorem count_fresh (seen xs : List α) (x : α) :
    (fresh seen xs).count x = if x ∈ xs ∧ x ∉ seen then 1 else 0 := by
  induction xs generalizing seen with
  | nil => simp [fresh_nil]
  | cons y rest ih =>
      by_cases met : y ∈ seen
      · rw [fresh_of_mem met, ih]
        by_cases same : x = y
        · subst same
          simp [met]
        · simp [same]
      · rw [fresh_of_notMem met, List.count_cons, ih]
        by_cases same : x = y
        · subst same
          simp [met]
        · simp [same, Ne.symm same]

theorem onceEach_eraseDups (xs : List α) : OnceEach xs xs.eraseDups := by
  intro x
  rw [← fresh_nil_left, count_fresh]
  simp

theorem nodup_eraseDups (xs : List α) : xs.eraseDups.Nodup := by
  apply List.nodup_iff_count_le_one.mpr
  intro x
  rw [onceEach_eraseDups xs x]
  split
  · exact Nat.le_refl 1
  · exact Nat.zero_le 1

theorem processed_of_mem (met : x ∈ seen) :
    processed remember seen (x :: rest) = processed remember seen rest :=
  if_pos met

theorem processed_of_some {seen' : List α} (new : x ∉ seen) (room : remember seen x = some seen') :
    processed remember seen (x :: rest) = (processed remember seen' rest).map (x :: ·) := by
  rw [processed, if_neg new, room]

theorem processed_of_none (new : x ∉ seen) (full : remember seen x = none) :
    processed remember seen (x :: rest) = none := by
  rw [processed, if_neg new, full]

/-- **The loop that writes without a check.** -/
theorem processed_write (room : seen.length ≤ cap) (xs : List α) :
    processed (write cap) seen xs =
      if seen.length + (fresh seen xs).length ≤ cap then some (fresh seen xs) else none := by
  induction xs generalizing seen with
  | nil => exact (if_pos room).symm
  | cons x rest ih =>
      by_cases met : x ∈ seen
      · rw [processed_of_mem met, ih room, fresh_of_mem met]
      rw [fresh_of_notMem met, List.length_cons]
      by_cases more : seen.length < cap
      · have longer : (seen ++ [x]).length = seen.length + 1 := List.length_append
        have later : processed (write cap) (seen ++ [x]) rest =
            if (seen ++ [x]).length + (fresh (seen ++ [x]) rest).length ≤ cap then
              some (fresh (seen ++ [x]) rest)
            else none := ih (by omega)
        rw [longer, Nat.add_assoc, Nat.add_comm 1] at later
        rw [processed_of_some met (if_pos more), later]
        split <;> rfl
      · rw [processed_of_none met (if_neg more), if_neg (by omega)]

/-- **The loop that checks.** It stays in the array. A value that finds a cell is processed once, the
others as often as they occur. -/
theorem count_processed_writeIfRoom (cap : Nat) (seen xs : List α) :
    ∃ ys, processed (writeIfRoom cap) seen xs = some ys ∧ ∀ x, ys.count x =
      if x ∈ seen then 0 else if x ∈ (fresh seen xs).take (cap - seen.length) then 1 else xs.count x := by
  induction xs generalizing seen with
  | nil => exact ⟨[], rfl, fun x => by simp [fresh_nil]⟩
  | cons y rest ih =>
      by_cases met : y ∈ seen
      · obtain ⟨ys, loop, counts⟩ := ih seen
        refine ⟨ys, (processed_of_mem met).trans loop, fun x => ?_⟩
        rw [counts, fresh_of_mem met]
        by_cases same : x = y
        · simp [same, met]
        · rw [List.count_cons_of_ne (Ne.symm same)]
      by_cases more : seen.length < cap
      · obtain ⟨ys, loop, counts⟩ := ih (seen ++ [y])
        refine ⟨y :: ys, ?_, fun x => ?_⟩
        · rw [processed_of_some met (writeIfRoom_of_lt more), loop, Option.map_some]
        · have left : cap - seen.length = cap - (seen ++ [y]).length + 1 := by
            rw [List.length_append, List.length_singleton]
            omega
          rw [fresh_of_notMem met, left, List.take_succ_cons, List.count_cons, counts]
          by_cases same : x = y
          · subst same
            simp [met]
          · simp [same, Ne.symm same]
      · -- no cell is left: the value is processed and not remembered
        obtain ⟨ys, loop, counts⟩ := ih seen
        refine ⟨y :: ys, ?_, fun x => ?_⟩
        · rw [processed_of_some met (if_neg more), loop, Option.map_some]
        · have full : cap - seen.length = 0 := by omega
          rw [List.count_cons, counts, full, List.take_zero, List.take_zero]
          by_cases same : x = y
          · subst same
            simp [met]
          · simp [Ne.symm same]

theorem processed_writeIfRoom (few : seen.length + (fresh seen xs).length ≤ cap) :
    processed (writeIfRoom cap) seen xs = some (fresh seen xs) := by
  induction xs generalizing seen with
  | nil => rfl
  | cons x rest ih =>
      by_cases met : x ∈ seen
      · rw [fresh_of_mem met] at few ⊢
        rw [processed_of_mem met, ih few]
      · rw [fresh_of_notMem met, List.length_cons] at few
        have longer : (seen ++ [x]).length = seen.length + 1 := List.length_append
        have later : processed (writeIfRoom cap) (seen ++ [x]) rest = some (fresh (seen ++ [x]) rest) :=
          ih (by omega)
        rw [processed_of_some met (writeIfRoom_of_lt (by omega)), later, Option.map_some,
          fresh_of_notMem met]

/-- **When the loop that checks processes each value once**: no value that finds no cell comes again. -/
theorem onceEach_writeIfRoom_iff (loop : processed (writeIfRoom cap) [] xs = some ys) :
    OnceEach xs ys ↔ ∀ x ∈ xs.eraseDups.drop cap, xs.count x = 1 := by
  obtain ⟨ys', loop', counts⟩ := count_processed_writeIfRoom cap [] xs
  obtain rfl : ys' = ys := Option.some.inj (loop'.symm.trans loop)
  simp only [List.not_mem_nil, if_false, List.length_nil, Nat.sub_zero, fresh_nil_left] at counts
  have apart := List.disjoint_take_drop (nodup_eraseDups xs) (Nat.le_refl cap)
  constructor
  · intro once x late
    have here : x ∈ xs := List.mem_eraseDups.mp (List.mem_of_mem_drop late)
    have count := counts x
    rw [once x, if_pos here, if_neg fun early => apart early late] at count
    exact count.symm
  · intro late x
    rw [counts x]
    by_cases early : x ∈ xs.eraseDups.take cap
    · rw [if_pos early, if_pos (List.mem_eraseDups.mp (List.mem_of_mem_take early))]
    by_cases here : x ∈ xs
    · have split := List.mem_eraseDups.mpr here
      rw [← List.take_append_drop cap xs.eraseDups] at split
      rw [if_neg early, if_pos here]
      exact late x ((List.mem_append.mp split).resolve_left early)
    · rw [if_neg early, if_neg here, List.count_eq_zero_of_not_mem here]

end Loop

end NimbleProxy.Theory.SeenArray
