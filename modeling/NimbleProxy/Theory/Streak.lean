/-
# Theory.Streak -- how long something has been the case without a break

A counter that is raised whenever something happens, and set to 0 whenever something else
does, is to tell how long the run of it is at the end of the history. `streak` is the
length of that run (`isGreatest_streak`), and the two lemmas `streak_concat` say what a
new event does to it, which is what the counter does.
-/
import Mathlib.Data.List.DropRight
import Mathlib.Order.Bounds.Basic

namespace NimbleProxy.Theory.Streak

set_option autoImplicit false

universe u

variable {α : Type u} (p : α → Bool) {history : List α} {event : α}

/-- The number of events at the end that all have `p`. -/
def streak (history : List α) : Nat := (history.rtakeWhile p).length

@[simp] theorem streak_nil : streak p [] = 0 := rfl

variable {p}

theorem streak_concat (holds : p event = true) :
    streak p (history ++ [event]) = streak p history + 1 := by
  rw [streak, List.rtakeWhile_concat_pos p history event holds, List.length_append]
  rfl

theorem streak_concat_of_not (broken : p event = false) : streak p (history ++ [event]) = 0 := by
  rw [streak, List.rtakeWhile_concat_neg p history event (by simp [broken])]
  rfl

theorem length_le_streak {suffix : List α} (ends : suffix <:+ history)
    (all : ∀ event ∈ suffix, p event = true) : suffix.length ≤ streak p history := by
  induction history using List.reverseRecOn generalizing suffix with
  | nil =>
      rw [List.suffix_nil.mp ends]
      exact Nat.zero_le _
  | append_singleton history event ih =>
      rcases List.suffix_concat_iff.mp ends with rfl | ⟨rest, rfl, before⟩
      · exact Nat.zero_le _
      · rw [streak_concat (all event (by simp)), List.length_append]
        refine Nat.succ_le_succ (ih before fun event mem => ?_)
        exact all event (List.mem_append_left _ mem)

/-- **The longest suffix in which all events have `p`.** -/
theorem isGreatest_streak (p : α → Bool) (history : List α) :
    IsGreatest {n | ∃ suffix, suffix <:+ history ∧ (∀ event ∈ suffix, p event = true) ∧
      suffix.length = n} (streak p history) := by
  refine ⟨⟨_, List.rtakeWhile_suffix p history, fun _ => List.mem_rtakeWhile_imp, rfl⟩, ?_⟩
  rintro n ⟨suffix, ends, all, rfl⟩
  exact length_le_streak ends all

end NimbleProxy.Theory.Streak
