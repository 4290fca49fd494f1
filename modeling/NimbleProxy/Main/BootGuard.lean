/-
# Main.BootGuard -- which crash the boot guard takes for an early one

`main.cpp`, with `CONFIG_NBP_CLONE_BOOT_GUARD`. A crash soon after `app_main` has started
is to switch the clone off at the next boot. The guard does not measure the time: it sets
a flag in NVS when it runs, a timer clears it, and the next boot looks whether the flag
is still set and the reset was a crash.

The guard runs behind the serial window, and the timer is started at the end of
`app_main`, which WiFi can hold up for any time. So the flag is set for longer than
`BOOT_STABLE_US`, and in the serial window it is the one of an earlier boot. `InTime` is
that no crash falls where the flag and the clock disagree.

A boot is a chain of stages with time passing between any two of them; a reset of any
class can come at any moment, and NVS works.
-/
import NimbleProxy.Theory.ActionSystem

namespace NimbleProxy.Main.BootGuard

open NimbleProxy.Theory ActionSystem

set_option autoImplicit false

/-! ## The system -/

/-- `esp_reset_reason_t`. -/
inductive ResetReason
  | unknown | powerOn | ext | sw | panic | intWdt | taskWdt | wdt | deepSleep | brownout | sdio
  deriving DecidableEq

/-- `crash_class`. -/
def ResetReason.crashClass (reason : ResetReason) : Bool :=
  reason = .panic || reason = .intWdt || reason = .taskWdt || reason = .wdt || reason = .brownout

/-- Where `app_main` is. -/
inductive Stage
  /-- up to the end of `poll_boot_window` -/
  | serialWindow
  /-- behind `boot_was_unstable`, with WiFi, the API and BLE to be started -/
  | guarded
  /-- the clone is started -/
  | cloneStarted
  /-- `schedule_boot_stable_mark` was called, at this time -/
  | armed (since : Nat)
  /-- the timer has fired -/
  | marked
  deriving DecidableEq

structure State where
  /-- `pending` in the namespace `nbp_boot` -/
  pending : Bool := false
  /-- `enabled` in the stored configuration of the clone -/
  cloneEnabled : Bool
  /-- microseconds since `app_main` has started -/
  uptime : Nat := 0
  stage : Stage := .serialWindow
  /-- `esp_reset_reason()` -/
  reason : ResetReason := .powerOn
  /-- `clone_force_disable` -/
  forceDisable : Option Bool := none
  /-- how the previous boot ended, and when -/
  previous : Option (ResetReason × Nat) := none

inductive Action
  | pass (us : Nat)
  | bootWasUnstable
  | startClone
  | scheduleBootStableMark
  | timer
  /-- POST /clone -/
  | setClone (enabled : Bool)
  | reset (reason : ResetReason)

/-- The one-shot has run its time; `stable` is `BOOT_STABLE_US`. -/
def TimerDue (stable uptime : Nat) : Stage → Prop
  | .armed since => since + stable ≤ uptime
  | _ => False

instance (stable uptime : Nat) : (stage : Stage) → Decidable (TimerDue stable uptime stage)
  | .armed _ => inferInstanceAs (Decidable (_ ≤ _))
  | .serialWindow | .guarded | .cloneStarted | .marked => inferInstanceAs (Decidable False)

def Guard (stable : Nat) (s : State) : Action → Prop
  | .bootWasUnstable => s.stage = .serialWindow
  | .startClone => s.stage = .guarded
  | .scheduleBootStableMark => s.stage = .cloneStarted
  | .timer => TimerDue stable s.uptime s.stage
  | .pass _ | .setClone _ | .reset _ => True

instance (stable : Nat) (s : State) : (a : Action) → Decidable (Guard stable s a)
  | .bootWasUnstable => inferInstanceAs (Decidable (_ = _))
  | .startClone => inferInstanceAs (Decidable (_ = _))
  | .scheduleBootStableMark => inferInstanceAs (Decidable (_ = _))
  | .timer => inferInstanceAs (Decidable (TimerDue ..))
  | .pass _ | .setClone _ | .reset _ => isTrue trivial

def effect (s : State) : Action → State
  | .pass us => { s with uptime := s.uptime + us }
  | .bootWasUnstable =>
      { s with
        forceDisable := some (s.reason.crashClass && s.pending)
        pending := true
        stage := .guarded }
  | .startClone =>
      { s with
        cloneEnabled := if s.forceDisable = some true then false else s.cloneEnabled
        stage := .cloneStarted }
  | .scheduleBootStableMark => { s with stage := .armed s.uptime }
  | .timer => { s with pending := false, stage := .marked }
  | .setClone enabled => { s with cloneEnabled := enabled }
  | .reset reason =>
      { pending := s.pending, cloneEnabled := s.cloneEnabled, reason
        previous := some (reason, s.uptime) }

/-- From the first boot of a device on. -/
def system (stable : Nat) (cloneEnabled : Bool) : ActionSystem State Action where
  init := { cloneEnabled }
  Guard := Guard stable
  guardDecidable := inferInstance
  effect := effect

/-- The previous boot ended with a crash, less than `BOOT_STABLE_US` after its start. -/
def endedEarly (stable : Nat) : Option (ResetReason × Nat) → Bool
  | none => false
  | some (reason, uptime) => reason.crashClass && decide (uptime < stable)

/-- What the guard decides is what it is there for. -/
def Correct (stable : Nat) (s : State) : Prop :=
  ∀ decision ∈ s.forceDisable, decision = endedEarly stable s.previous

/-- Where a crash is taken for what it is: before the mark it is an early one, and in the serial
window the flag of an earlier boot happens to say the right thing. -/
def CrashInTime (stable : Nat) (s : State) : Stage → Prop
  | .serialWindow => s.pending = decide (s.uptime < stable)
  | .guarded | .cloneStarted | .armed _ => s.uptime < stable
  | .marked => True

instance (stable : Nat) (s : State) : (stage : Stage) → Decidable (CrashInTime stable s stage)
  | .serialWindow => inferInstanceAs (Decidable (_ = _))
  | .guarded | .cloneStarted | .armed _ => inferInstanceAs (Decidable (_ < _))
  | .marked => isTrue trivial

/-- No crash falls where it is taken for another one. -/
def InTime (stable : Nat) (s : State) : Action → Prop
  | .reset reason => reason.crashClass = true → CrashInTime stable s s.stage
  | _ => True

instance (stable : Nat) (s : State) : (a : Action) → Decidable (InTime stable s a)
  | .reset _ => inferInstanceAs (Decidable (_ → CrashInTime ..))
  | .pass _ | .bootWasUnstable | .startClone | .scheduleBootStableMark | .timer | .setClone _ =>
      isTrue trivial

/-! ## The flag -/

section Runs

variable {stable : Nat} {cloneEnabled : Bool} {s : State}

/-- The flag behind the serial window: set by the guard, which has then decided, and cleared by
the mark, which comes after `BOOT_STABLE_US`. -/
def Flag (stable : Nat) (s : State) : Stage → Prop
  | .serialWindow => True
  | .guarded => s.pending = true ∧ s.forceDisable.isSome
  | .cloneStarted => s.pending = true
  | .armed since => s.pending = true ∧ since ≤ s.uptime
  | .marked => s.pending = false ∧ stable ≤ s.uptime

theorem flag_step (flag : Flag stable s s.stage) (a : Action) (guard : Guard stable s a) :
    Flag stable (effect s a) (effect s a).stage := by
  cases a with
  | pass us =>
      simp only [effect]
      cases stage : s.stage with
      | serialWindow | guarded | cloneStarted =>
          rw [stage] at flag
          exact flag
      | armed since =>
          rw [stage] at flag
          exact ⟨flag.1, Nat.le_add_right_of_le flag.2⟩
      | marked =>
          rw [stage] at flag
          exact ⟨flag.1, Nat.le_add_right_of_le flag.2⟩
  | bootWasUnstable => exact ⟨rfl, rfl⟩
  | startClone =>
      simp only [Guard] at guard
      rw [guard] at flag
      exact flag.1
  | scheduleBootStableMark =>
      simp only [Guard] at guard
      rw [guard] at flag
      exact ⟨flag, Nat.le_refl _⟩
  | timer =>
      simp only [Guard] at guard
      cases stage : s.stage with
      | armed since =>
          rw [stage] at guard
          exact ⟨rfl, Nat.le_of_add_left_le guard⟩
      | _ =>
          rw [stage] at guard
          exact guard.elim
  | setClone enabled =>
      simp only [effect]
      cases stage : s.stage <;> rw [stage] at flag <;> exact flag
  | reset reason => trivial

theorem flag_reachable (path : (system stable cloneEnabled).Reachable s) : Flag stable s s.stage := by
  refine path.invariant (P := fun s => Flag stable s s.stage) ?_ ?_
  · trivial
  · intro s a flag guard
    exact flag_step flag a guard

/-- At a crash, the condition is that the flag says what the clock says. -/
theorem inTime_iff (flag : Flag stable s s.stage) {reason : ResetReason}
    (crash : reason.crashClass = true) :
    InTime stable s (.reset reason) ↔ s.pending = decide (s.uptime < stable) := by
  simp only [InTime, crash, forall_true_left]
  cases stage : s.stage with
  | serialWindow => rfl
  | guarded =>
      rw [stage] at flag
      simp [CrashInTime, flag.1]
  | cloneStarted =>
      rw [stage] at flag
      simp only [Flag] at flag
      simp [CrashInTime, flag]
  | armed since =>
      rw [stage] at flag
      simp [CrashInTime, flag.1]
  | marked =>
      rw [stage] at flag
      simp [CrashInTime, flag.1, flag.2]

/-! ## The decision -/

/-- The decision is correct, or will be. -/
def Decides (stable : Nat) (s : State) : Prop :=
  Correct stable s ∧
    (s.stage = .serialWindow → (s.reason.crashClass && s.pending) = endedEarly stable s.previous)

theorem decides_step (flag : Flag stable s s.stage) (decides : Decides stable s) (a : Action)
    (guard : Guard stable s a) (inTime : InTime stable s a) : Decides stable (effect s a) := by
  obtain ⟨correct, next⟩ := decides
  cases a with
  | pass us => exact ⟨correct, next⟩
  | setClone enabled => exact ⟨correct, next⟩
  | startClone => exact ⟨correct, nofun⟩
  | scheduleBootStableMark => exact ⟨correct, nofun⟩
  | timer => exact ⟨correct, nofun⟩
  | bootWasUnstable =>
      refine ⟨?_, nofun⟩
      rintro decision ⟨⟩
      exact next guard
  | reset reason =>
      refine ⟨nofun, fun _ => ?_⟩
      simp only [effect, endedEarly]
      cases crash : reason.crashClass with
      | false => rfl
      | true => rw [(inTime_iff flag crash).mp inTime]

theorem decides_reachable (path : (system stable cloneEnabled).ReachableWhen (InTime stable) s) :
    Decides stable s := by
  refine path.invariant_with (K := fun s => Flag stable s s.stage) (P := Decides stable)
    (fun _ => flag_reachable) ⟨nofun, fun _ => rfl⟩ ?_
  intro s a flag decides guard inTime
  exact decides_step flag decides a guard inTime

end Runs

/-- **The boot guard.** In a sequence of boots in which no crash falls where the flag and the
clock disagree, the clone is switched off at a boot exactly if the previous one ended with a crash
less than `BOOT_STABLE_US` after its start. After a crash that does, the next boot decides
otherwise. -/
theorem boot_guard (stable : Nat) (cloneEnabled : Bool) (s : State) :
    ((system stable cloneEnabled).ReachableWhen (InTime stable) s →
      Correct stable s ∧
        (s.stage = .guarded →
          (effect s .startClone).cloneEnabled =
            (s.cloneEnabled && !endedEarly stable s.previous))) ∧
      ∀ a, (system stable cloneEnabled).Reachable s → (system stable cloneEnabled).Guard s a →
        ¬ InTime stable s a →
        ∃ t, (system stable cloneEnabled).ReachableFrom always
          ((system stable cloneEnabled).effect s a) t ∧ ¬ Correct stable t := by
  refine ⟨fun path => ?_, fun a path _ late => ?_⟩
  · have decides := decides_reachable path
    refine ⟨decides.1, fun stage => ?_⟩
    have flag := flag_reachable path.reachable
    rw [stage] at flag
    obtain ⟨decision, decided⟩ := Option.isSome_iff_exists.mp flag.2
    have right : decision = endedEarly stable s.previous := decides.1 decision decided
    simp only [effect, decided, ← right]
    cases decision <;> simp
  · cases a with
    | reset reason =>
        have crash : reason.crashClass = true := by
          by_contra other
          exact late fun crash => absurd crash other
        have disagree : s.pending ≠ decide (s.uptime < stable) := fun same =>
          late ((inTime_iff (flag_reachable path) crash).mpr same)
        -- the next boot gets as far as its guard
        have path' : (system stable cloneEnabled).ReachableFrom always (effect s (.reset reason))
            (effect (effect s (.reset reason)) .bootWasUnstable) :=
          ReachableFrom.step Action.bootWasUnstable .refl rfl trivial
        refine ⟨_, path', fun correct => ?_⟩
        have decision := correct _ rfl
        simp only [effect, endedEarly, crash, Bool.true_and] at decision
        exact disagree decision
    | _ => exact absurd trivial late

/-- WiFi gets its address after two minutes, and the device crashes soon after: no early crash,
but the clone is switched off. -/
theorem slow_wifi_taken_for_crash :
    let s := (system 60000000 true).final
      [.pass 10000000, .bootWasUnstable, .pass 120000000, .startClone, .pass 1000000,
        .reset .panic, .pass 10000000, .bootWasUnstable, .startClone]
    s.previous = some (.panic, 131000000) ∧ s.forceDisable = some true ∧ s.cloneEnabled = false := by
  decide +kernel

/-- A crash in the serial window of the first boot is an early one, and is not noticed. -/
theorem serial_window_crash_missed :
    let s := (system 60000000 true).final
      [.pass 5000000, .reset .panic, .pass 10000000, .bootWasUnstable]
    s.previous = some (.panic, 5000000) ∧ s.forceDisable = some false := by
  decide +kernel

/-- An early crash behind the guard, and the boot after it. -/
theorem boot_guard_early_crash :
    let s := (system 60000000 true).finalFrom (InTime 60000000) (system 60000000 true).init
      [.pass 10000000, .bootWasUnstable, .pass 3000000, .startClone, .pass 5000000,
        .reset .panic, .pass 10000000, .bootWasUnstable]
    (effect s .startClone).cloneEnabled = false := by
  intro s
  have path : (system 60000000 true).ReachableWhen (InTime 60000000) s :=
    (system 60000000 true).reachable_finalFrom (InTime 60000000) _ _
  have disabled := ((boot_guard 60000000 true s).1 path).2 (by decide +kernel)
  rw [disabled]
  decide +kernel

end NimbleProxy.Main.BootGuard
