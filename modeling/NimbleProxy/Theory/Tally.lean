/-
# Theory.Tally -- counting the members of a finite set that satisfy a predicate

A shared counter is correct when it equals the number of tasks that contribute
to it. A task's step changes the contribution of that task alone, so everything
a counter proof needs is how a count moves when a predicate changes at one
index (`tally_change`) or when the set grows by one (`tally_range_succ`).
-/
import Mathlib.Data.Finset.Card
import Mathlib.Data.Finset.Range
import Mathlib.Data.Fintype.Card

namespace NimbleProxy.Theory

set_option autoImplicit false

variable {ι : Type*}

/-- The number of members of `S` that satisfy `p`. -/
def tally (S : Finset ι) (p : ι → Prop) [DecidablePred p] : Nat :=
  (S.filter p).card

theorem tally_congr {S : Finset ι} {p q : ι → Prop} [DecidablePred p] [DecidablePred q]
    (same : ∀ j ∈ S, (p j ↔ q j)) : tally S p = tally S q := by
  unfold tally
  rw [Finset.filter_congr same]

/-- A predicate that changes at `i` alone moves the count by that change. -/
theorem tally_change [DecidableEq ι] {S : Finset ι} {p q : ι → Prop} [DecidablePred p] [DecidablePred q]
    {i : ι} (member : i ∈ S) (same : ∀ j, j ≠ i → (p j ↔ q j)) :
    tally S q + (if p i then 1 else 0) = tally S p + (if q i then 1 else 0) := by
  have split : ∀ (r : ι → Prop) [DecidablePred r],
      tally S r = tally (S.erase i) r + if r i then 1 else 0 := by
    intro r _
    unfold tally
    rw [← Finset.insert_erase member, Finset.filter_insert]
    by_cases holds : r i
    · simp [holds]
    · simp [holds]
  have rest : tally (S.erase i) p = tally (S.erase i) q :=
    tally_congr fun j inside => same j (Finset.ne_of_mem_erase inside)
  rw [split p, split q, rest]
  omega

theorem tally_pos {S : Finset ι} {p : ι → Prop} [DecidablePred p] :
    0 < tally S p ↔ ∃ i ∈ S, p i := by
  unfold tally
  rw [Finset.card_pos]
  constructor
  · rintro ⟨i, member⟩
    exact ⟨i, (Finset.mem_filter.mp member).1, (Finset.mem_filter.mp member).2⟩
  · rintro ⟨i, member, holds⟩
    exact ⟨i, Finset.mem_filter.mpr ⟨member, holds⟩⟩

theorem tally_eq_zero {S : Finset ι} {p : ι → Prop} [DecidablePred p] :
    tally S p = 0 ↔ ∀ i ∈ S, ¬ p i := by
  constructor
  · intro none i member holds
    have := tally_pos.mpr ⟨i, member, holds⟩
    omega
  · intro none
    by_contra some
    obtain ⟨i, member, holds⟩ := tally_pos.mp (Nat.pos_of_ne_zero some)
    exact none i member holds

theorem tally_range_succ (n : Nat) (p : Nat → Prop) [DecidablePred p] :
    tally (Finset.range (n + 1)) p = tally (Finset.range n) p + if p n then 1 else 0 := by
  unfold tally
  rw [Finset.range_add_one, Finset.filter_insert]
  by_cases holds : p n
  · simp [holds]
  · simp [holds]

/-- A counter that equals a count and moves with it equals it again. -/
theorem counter_follows {n n' : Nat} {x x' : Int} {p q : Prop} [Decidable p] [Decidable q]
    (before : x = n) (counted : n' + (if p then 1 else 0) = n + if q then 1 else 0)
    (stepped : x' + (if p then 1 else 0) = x + if q then 1 else 0) : x' = n' := by
  split at counted <;> split at counted
  all_goals
    simp only [*, if_true, if_false] at stepped
    omega

end NimbleProxy.Theory
