/-
# Theory.ActionSystem -- guarded atomic actions and what their runs preserve

A concurrent program is modelled as one state and a set of atomic actions. An
action that is enabled (`Guard`) may fire at any moment, whoever's turn it is,
so the runs of the system are exactly the interleavings of its tasks.

* `ReachableFrom ok s t`: some run leads from `s` to `t` in which every firing
  meets `ok`; `Reachable` is the run from `init` without a condition.
* `ReachableFrom.invariant`: what one firing keeps, a run keeps. A second
  predicate that is already known along runs may be used (`invariant_with`).
* `run`, `finalFrom`: the executable run of a list of actions, for concrete
  schedules; `run_count` is the invariant rule with a count of its actions.
* `run_keeps_iff`: a condition that is exact for one firing is exact for a run.
* `Projection`: every firing of one system is a firing of another, or is not
  seen by it. Reachable states then project to reachable states.
-/
import Mathlib.Logic.Function.Basic

namespace NimbleProxy.Theory

set_option autoImplicit false

universe u v

/-- A system of guarded atomic actions. -/
structure ActionSystem (State : Type u) (Action : Type v) where
  init : State
  Guard : State → Action → Prop
  guardDecidable : ∀ s a, Decidable (Guard s a)
  effect : State → Action → State

namespace ActionSystem

variable {State : Type u} {Action : Type v}

instance (M : ActionSystem State Action) (s : State) (a : Action) : Decidable (M.Guard s a) :=
  M.guardDecidable s a

/-- Reachability by firings that all meet `ok`. -/
inductive ReachableFrom (M : ActionSystem State Action) (ok : State → Action → Prop)
    (start : State) : State → Prop
  | refl : ReachableFrom M ok start start
  | step {s : State} (a : Action) : ReachableFrom M ok start s → M.Guard s a → ok s a →
      ReachableFrom M ok start (M.effect s a)

/-- The run of a schedule; `none` as soon as an action is not enabled or does not
meet `ok`. -/
def run (M : ActionSystem State Action) (ok : State → Action → Prop)
    [∀ s a, Decidable (ok s a)] : State → List Action → Option State
  | s, [] => some s
  | s, a :: rest => if M.Guard s a ∧ ok s a then M.run ok (M.effect s a) rest else none

/-- Every firing is allowed. -/
def always : State → Action → Prop := fun _ _ => True

instance (s : State) (a : Action) : Decidable (always s a) := isTrue trivial

/-- The states of all runs. -/
def Reachable (M : ActionSystem State Action) (s : State) : Prop :=
  M.ReachableFrom always M.init s

/-- The states of the runs whose every firing meets `ok`. -/
def ReachableWhen (M : ActionSystem State Action) (ok : State → Action → Prop) (s : State) : Prop :=
  M.ReachableFrom ok M.init s

variable {M : ActionSystem State Action} {ok : State → Action → Prop} {s t u : State}

theorem ReachableFrom.mono {ok' : State → Action → Prop} (weaker : ∀ s a, ok s a → ok' s a)
    (path : M.ReachableFrom ok s t) : M.ReachableFrom ok' s t := by
  induction path with
  | refl => exact .refl
  | step a _ guard allowed ih => exact .step a ih guard (weaker _ a allowed)

theorem ReachableFrom.trans (first : M.ReachableFrom ok s t) (second : M.ReachableFrom ok t u) :
    M.ReachableFrom ok s u := by
  induction second with
  | refl => exact first
  | step a _ guard allowed ih => exact .step a ih guard allowed

theorem ReachableFrom.head (a : Action) (guard : M.Guard s a) (allowed : ok s a)
    (path : M.ReachableFrom ok (M.effect s a) t) : M.ReachableFrom ok s t :=
  (ReachableFrom.step a .refl guard allowed).trans path

theorem ReachableWhen.reachable (path : M.ReachableWhen ok s) : M.Reachable s :=
  ReachableFrom.mono (fun _ _ _ => trivial) path

theorem Reachable.step (path : M.Reachable s) (a : Action) (guard : M.Guard s a) :
    M.Reachable (M.effect s a) :=
  ReachableFrom.step a path guard trivial

/-- **The invariant rule.** -/
theorem ReachableFrom.invariant {P : State → Prop}
    (keeps : ∀ s a, P s → M.Guard s a → ok s a → P (M.effect s a))
    (path : M.ReachableFrom ok s t) (start : P s) : P t := by
  induction path with
  | refl => exact start
  | step a _ guard allowed ih => exact keeps _ a ih guard allowed

theorem Reachable.invariant {P : State → Prop} (start : P M.init)
    (keeps : ∀ s a, P s → M.Guard s a → P (M.effect s a)) (path : M.Reachable s) : P s :=
  ReachableFrom.invariant (fun s a held guard _ => keeps s a held guard) path start

/-- The invariant rule beside a predicate that holds in every reachable state. -/
theorem ReachableWhen.invariant_with {K P : State → Prop}
    (known : ∀ s, M.Reachable s → K s) (start : P M.init)
    (keeps : ∀ s a, K s → P s → M.Guard s a → ok s a → P (M.effect s a))
    (path : M.ReachableWhen ok s) : P s := by
  suffices both : M.Reachable s ∧ P s from both.2
  refine ReachableFrom.invariant (P := fun s => M.Reachable s ∧ P s) ?_ path
    ⟨ReachableFrom.refl, start⟩
  intro s a held guard allowed
  exact ⟨held.1.step a guard, keeps s a (known s held.1) held.2 guard allowed⟩

theorem Reachable.invariant_with {K P : State → Prop}
    (known : ∀ s, M.Reachable s → K s) (start : P M.init)
    (keeps : ∀ s a, K s → P s → M.Guard s a → P (M.effect s a))
    (path : M.Reachable s) : P s :=
  ReachableWhen.invariant_with known start
    (fun s a also held guard _ => keeps s a also held guard) path

/-- A schedule that runs to its end is a run. -/
theorem reachableFrom_of_run [∀ s a, Decidable (ok s a)] {acts : List Action}
    (ran : M.run ok s acts = some t) : M.ReachableFrom ok s t := by
  induction acts generalizing s with
  | nil =>
      simp only [run, Option.some.injEq] at ran
      subst ran
      exact .refl
  | cons a rest ih =>
      simp only [run] at ran
      split at ran
      · rename_i fires
        exact .head a fires.1 fires.2 (ih ran)
      · cases ran

/-- The invariant rule for a schedule, with the number of actions of one kind so far. -/
theorem run_count [∀ s a, Decidable (ok s a)] (counts : Action → Bool) {P : Nat → State → Prop}
    (keeps : ∀ k s a, P k s → M.Guard s a → ok s a → P (k + (counts a).toNat) (M.effect s a))
    {acts : List Action} {k : Nat} (start : P k s) (ran : M.run ok s acts = some t) :
    P (k + acts.countP counts) t := by
  induction acts generalizing k s with
  | nil =>
      simp only [run, Option.some.injEq] at ran
      subst ran
      exact start
  | cons a rest ih =>
      simp only [run] at ran
      split at ran
      · rename_i fires
        have next := ih (keeps k s a start fires.1 fires.2) ran
        have total : k + (a :: rest).countP counts = k + (counts a).toNat + rest.countP counts := by
          rw [List.countP_cons]
          cases counts a <;> simp <;> omega
        rw [total]
        exact next
      · cases ran

/-- **The exactness rule.** What is lost stays lost, and a firing keeps it exactly if it meets
`ok`. Then a run keeps it exactly if all of its firings meet `ok`. -/
theorem run_keeps_iff [∀ s a, Decidable (ok s a)] {K P : State → Prop}
    (lost : ∀ s a, ¬ P s → ¬ P (M.effect s a))
    (knows : ∀ s a, K s → P s → M.Guard s a → ok s a → K (M.effect s a))
    (exact : ∀ s a, K s → P s → M.Guard s a → (P (M.effect s a) ↔ ok s a))
    {acts : List Action} (known : K s) (start : P s) (ran : M.run always s acts = some t) :
    P t ↔ M.run ok s acts = some t := by
  induction acts generalizing s with
  | nil =>
      simp only [run, Option.some.injEq] at ran ⊢
      subst ran
      exact iff_of_true start rfl
  | cons a rest ih =>
      simp only [run] at ran ⊢
      split at ran
      · rename_i fires
        by_cases allowed : ok s a
        · rw [if_pos ⟨fires.1, allowed⟩]
          exact ih (knows s a known start fires.1 allowed)
            ((exact s a known start fires.1).mpr allowed) ran
        · rw [if_neg fun both => allowed both.2]
          have gone : ¬ P (M.effect s a) :=
            fun kept => allowed ((exact s a known start fires.1).mp kept)
          have gone' : ¬ P t :=
            (reachableFrom_of_run ran).invariant (P := fun s => ¬ P s)
              (fun s a held _ _ => lost s a held) gone
          exact iff_of_false gone' nofun
      · cases ran

/-- Where a schedule leads from `s`; `s` itself if it gets stuck. -/
def finalFrom (M : ActionSystem State Action) (ok : State → Action → Prop)
    [∀ s a, Decidable (ok s a)] (s : State) (acts : List Action) : State :=
  (M.run ok s acts).getD s

def final (M : ActionSystem State Action) (acts : List Action) : State :=
  M.finalFrom always M.init acts

theorem reachable_finalFrom (M : ActionSystem State Action) (ok : State → Action → Prop)
    [∀ s a, Decidable (ok s a)] (s : State) (acts : List Action) :
    M.ReachableFrom ok s (M.finalFrom ok s acts) := by
  unfold finalFrom
  cases ran : M.run ok s acts with
  | none => exact ReachableFrom.refl
  | some t => exact reachableFrom_of_run ran

theorem reachable_final (M : ActionSystem State Action) (acts : List Action) :
    M.Reachable (M.final acts) :=
  M.reachable_finalFrom always M.init acts

/-! ## One system seen inside another -/

variable {State' : Type u} {Action' : Type v}

/-- Every firing of `M` is a firing of `N` on the projected state, or leaves the
projected state as it is. -/
structure Projection (M : ActionSystem State Action) (N : ActionSystem State' Action')
    (proj : State → State') : Prop where
  init : proj M.init = N.init
  step : ∀ s a, M.Guard s a → proj (M.effect s a) = proj s ∨
    ∃ b, N.Guard (proj s) b ∧ proj (M.effect s a) = N.effect (proj s) b

theorem Projection.reachable {N : ActionSystem State' Action'} {proj : State → State'}
    (projection : Projection M N proj) (path : M.Reachable s) : N.Reachable (proj s) := by
  refine path.invariant (P := fun s => N.Reachable (proj s)) ?_ ?_
  · rw [projection.init]
    exact ReachableFrom.refl
  · intro s a held guard
    rcases projection.step s a guard with same | ⟨b, enabled, next⟩
    · rw [same]
      exact held
    · rw [next]
      exact held.step b enabled

end ActionSystem

end NimbleProxy.Theory
