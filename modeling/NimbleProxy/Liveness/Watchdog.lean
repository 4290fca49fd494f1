/-
# Liveness.Watchdog -- a reboot after enough failed probes in a row

`liveness_wdt.cpp`. A task wakes up every two seconds. If the watchdog is enabled, the
device has been up for a while and the station has been connected once, it performs a
probe cycle as soon as the interval has passed. A cycle without association sets
`g_failures` to 0, and so does a successful probe; a failed one raises it, and if it has
reached the threshold the device restarts.

So `g_failures` is the number of failed cycles since the last other one (`liveness`). The
interval, the threshold and the switch can change between any two iterations, and a reset
can come at any time; it is followed by `start` with whatever NVS has.

An iteration is one step. What it finds is an argument (`Tick`): the time since boot, the
two answers of `wifi_sta::is_connected`, and whether the gateway or the broker can be
reached. The samples for the chart and the time of the last success are left out: the
task does not read them.
-/
import NimbleProxy.Theory.ActionSystem
import NimbleProxy.Theory.Streak

namespace NimbleProxy.Liveness.Watchdog

open NimbleProxy.Theory ActionSystem Streak

set_option autoImplicit false

/-! ## Parameters -/

/-- `CONFIG_NBP_LIVENESS_INTERVAL_SECS` and `CONFIG_NBP_LIVENESS_THRESHOLD`, with the ranges that
Kconfig allows. -/
structure Config where
  intervalS : UInt32
  threshold : UInt32
  interval_range : 5 ≤ intervalS ∧ intervalS ≤ 3600
  threshold_range : 1 ≤ threshold ∧ threshold ≤ 60

/-- What NVS answers for `en`, `intv` and `thr`. -/
structure Stored where
  en : Option UInt8 := none
  intv : Option UInt32 := none
  thr : Option UInt32 := none

/-- `GRACE_S`. -/
def graceS : UInt32 := 90

/-! ## State -/

/-- Why the device restarts. -/
inductive Cause
  | selfTest
  | unreachable
  deriving DecidableEq

/-- A probe cycle: what the task has found. -/
structure Cycle where
  associated : Bool
  reachable : Bool
  deriving DecidableEq

def Cycle.failed (cycle : Cycle) : Bool := cycle.associated && !cycle.reachable

structure State where
  enabled : Bool
  intervalS : UInt32
  threshold : UInt32
  failures : UInt32 := 0
  forceTest : Bool := false
  /-- `seen_connected` -/
  seenConnected : Bool := false
  /-- `last_probe_s` -/
  lastProbeS : UInt32 := 0
  /-- the task is in `do_reboot` -/
  restarting : Option Cause := none
  /-- the probe cycles since boot -/
  cycles : List Cycle := []
  /-- the station was found connected at some iteration since boot -/
  everConnected : Bool := false

/-- What an iteration of the task finds. -/
structure Tick where
  /-- seconds since boot -/
  uptime : Nat
  connected : Bool
  associated : Bool
  reachable : Bool

/-- `load_nvs` behind the defaults; the state in which the task starts. -/
def start (config : Config) (stored : Stored) : State where
  enabled := match stored.en with
    | none => true
    | some en => en != 0
  intervalS := match stored.intv with
    | none => config.intervalS
    | some v => if 5 ≤ v ∧ v ≤ 3600 then v else config.intervalS
  threshold := match stored.thr with
    | none => config.threshold
    | some v => if 1 ≤ v ∧ v ≤ 60 then v else config.threshold

variable (s : State)

/-! ## The task -/

/-- The part behind `last_probe_s = now`. -/
def probe (tick : Tick) : State :=
  let s := { s with cycles := s.cycles ++ [Cycle.mk tick.associated tick.reachable] }
  if !tick.associated then { s with failures := 0 }
  else if tick.reachable then { s with failures := 0 }
  else
    let s := { s with failures := s.failures + 1 }
    if s.threshold ≤ s.failures then { s with restarting := some .unreachable } else s

/-- One iteration. -/
def iterate (tick : Tick) : State :=
  let s := { s with everConnected := s.everConnected || tick.connected }
  if s.forceTest then { s with forceTest := false, restarting := some .selfTest }
  else if !s.enabled then s
  else
    -- esp_timer counts in 64 bits, the task in 32
    let now := UInt32.ofNat tick.uptime
    if now < graceS then s
    else if !s.seenConnected && !tick.connected then s
    else
      let s := { s with seenConnected := true }
      if now - s.lastProbeS < s.intervalS then s
      else probe { s with lastProbeS := now } tick

/-- A negative argument leaves its parameter unchanged. -/
def setParams (enabled intervalS threshold : Int) : State × Option String :=
  if 0 ≤ intervalS ∧ (intervalS < 5 ∨ 3600 < intervalS) then
    (s, some "interval out of range (5..3600)")
  else if 0 ≤ threshold ∧ (threshold < 1 ∨ 60 < threshold) then
    (s, some "threshold out of range (1..60)")
  else
    ({ s with
      enabled := if 0 ≤ enabled then enabled != 0 else s.enabled
      intervalS := if 0 ≤ intervalS then UInt32.ofNat intervalS.toNat else s.intervalS
      threshold := if 0 ≤ threshold then UInt32.ofNat threshold.toNat else s.threshold }, none)

/-! ## The system -/

inductive Action
  | iterate (tick : Tick)
  | setParams (enabled intervalS threshold : Int)
  | forceFailTest
  | boot (stored : Stored)

/-- The task does not return from `do_reboot`. -/
def Guard : Action → Prop
  | .iterate _ => s.restarting = none
  | .setParams .. | .forceFailTest | .boot _ => True

instance : (a : Action) → Decidable (Guard s a)
  | .iterate _ => inferInstanceAs (Decidable (_ = _))
  | .setParams .. | .forceFailTest | .boot _ => isTrue trivial

def effect (config : Config) : Action → State
  | .iterate tick => iterate s tick
  | .setParams enabled intervalS threshold => (setParams s enabled intervalS threshold).1
  | .forceFailTest => { s with forceTest := true }
  | .boot stored => start config stored

def system (config : Config) (stored : Stored) : ActionSystem State Action where
  init := start config stored
  Guard := Guard
  guardDecidable := inferInstance
  effect := fun s => effect s config

/-! ## One iteration -/

section Iteration

variable {s : State} {tick : Tick}

/-- An iteration without a probe cycle. -/
structure Idles (s : State) (tick : Tick) (t : State) : Prop where
  failures : t.failures = s.failures
  cycles : t.cycles = s.cycles
  threshold : t.threshold = s.threshold
  restarting : t.restarting = s.restarting ∨ t.restarting = some .selfTest
  seen : t.seenConnected = true → (s.seenConnected || tick.connected) = true
  ever : t.everConnected = (s.everConnected || tick.connected)

/-- An iteration with one, and what has let it through. -/
structure Probes (s : State) (tick : Tick) (t : State) : Prop where
  probed : ∃ lastProbeS, t = probe { s with
    seenConnected := true, lastProbeS, everConnected := s.everConnected || tick.connected } tick
  enabled : s.enabled = true
  grace : graceS.toNat ≤ tick.uptime
  seen : (s.seenConnected || tick.connected) = true

theorem iterate_cases (s : State) (tick : Tick) :
    Idles s tick (iterate s tick) ∨ Probes s tick (iterate s tick) := by
  have earlier (seen : s.seenConnected = true) : (s.seenConnected || tick.connected) = true := by
    rw [seen, Bool.true_or]
  unfold iterate
  dsimp only
  split
  · exact .inl ⟨rfl, rfl, rfl, .inr rfl, earlier, rfl⟩
  · split
    · exact .inl ⟨rfl, rfl, rfl, .inl rfl, earlier, rfl⟩
    · rename_i _ disabled
      split
      · exact .inl ⟨rfl, rfl, rfl, .inl rfl, earlier, rfl⟩
      · rename_i early
        split
        · exact .inl ⟨rfl, rfl, rfl, .inl rfl, earlier, rfl⟩
        · rename_i unseen
          have seen : (s.seenConnected || tick.connected) = true := by
            cases first : s.seenConnected <;> cases second : tick.connected <;> simp_all
          split
          · exact .inl ⟨rfl, rfl, rfl, .inl rfl, fun _ => seen, rfl⟩
          · refine .inr ⟨⟨_, rfl⟩, by simpa using disabled, ?_, seen⟩
            rw [UInt32.not_lt, UInt32.le_iff_toNat_le, UInt32.toNat_ofNat'] at early
            exact early.trans (Nat.mod_le _ _)

/-- A probe cycle. -/
theorem probe_cases (s : State) (tick : Tick) :
    let cycle : Cycle := ⟨tick.associated, tick.reachable⟩
    (probe s tick).cycles = s.cycles ++ [cycle] ∧ (probe s tick).threshold = s.threshold ∧
      (probe s tick).everConnected = s.everConnected ∧
      ((cycle.failed = false ∧ (probe s tick).failures = 0 ∧
          (probe s tick).restarting = s.restarting) ∨
        (cycle.failed = true ∧ (probe s tick).failures = s.failures + 1 ∧
          (probe s tick).restarting =
            if s.threshold ≤ s.failures + 1 then some .unreachable else s.restarting)) := by
  unfold probe Cycle.failed
  dsimp only
  cases associated : tick.associated with
  | false => simp
  | true =>
      cases reachable : tick.reachable with
      | true => simp
      | false =>
          by_cases past : s.threshold ≤ s.failures + 1
          · simp [past]
          · simp [past]

/-- The watchdog is on, the grace period is over, the station has been seen connected, and the
interval has passed. -/
def Due (s : State) (tick : Tick) : Prop :=
  s.forceTest = false ∧ s.enabled = true ∧ graceS ≤ UInt32.ofNat tick.uptime ∧
    (s.seenConnected || tick.connected) = true ∧
    s.intervalS ≤ UInt32.ofNat tick.uptime - s.lastProbeS

instance (s : State) (tick : Tick) : Decidable (Due s tick) :=
  inferInstanceAs (Decidable (_ ∧ _ ∧ _ ∧ _ ∧ _))

/-- **Which cycles are performed.** -/
theorem cycles_iterate (s : State) (tick : Tick) :
    (iterate s tick).cycles =
      s.cycles ++ if Due s tick then [⟨tick.associated, tick.reachable⟩] else [] := by
  by_cases due : Due s tick
  · obtain ⟨quiet, enabled, grace, seen, interval⟩ := due
    have awake : ¬ ((!s.seenConnected && !tick.connected) = true) := by
      rw [← Bool.not_or, seen]
      decide
    rw [if_pos ⟨quiet, enabled, grace, seen, interval⟩]
    simp only [iterate, quiet, enabled, Bool.not_true, Bool.false_eq_true, if_false, awake,
      UInt32.not_lt.mpr grace, UInt32.not_lt.mpr interval]
    exact (probe_cases _ tick).1
  · rw [if_neg due, List.append_nil]
    unfold iterate
    dsimp only
    repeat' split
    iterate 5 rfl
    rename_i quiet enabled grace awake interval
    refine absurd ⟨?_, ?_, ?_, ?_, ?_⟩ due
    · simpa using quiet
    · simpa using enabled
    · exact UInt32.not_lt.mp grace
    · cases first : s.seenConnected <;> simp_all
    · exact UInt32.not_lt.mp interval

end Iteration

/-! ## The counter -/

section Counter

variable {s : State} {config : Config}

/-- The counter is the streak of failed cycles. It does not overflow: as long as the task runs, it
is below every threshold that can be set. -/
structure Counts (s : State) : Prop where
  streak : s.failures.toNat = streak Cycle.failed s.cycles
  running : s.restarting = none → s.failures.toNat < 60
  threshold : s.threshold.toNat ≤ 60
  connected : s.seenConnected = true → s.everConnected = true

theorem counts_start (config : Config) (stored : Stored) : Counts (start config stored) := by
  refine ⟨rfl, fun _ => by simp [start], ?_, nofun⟩
  have default := UInt32.le_iff_toNat_le.mp config.threshold_range.2
  unfold start
  dsimp only
  split
  · exact default
  · split
    · rename_i range
      exact UInt32.le_iff_toNat_le.mp range.2
    · exact default

theorem Counts.raised (counts : Counts s) (running : s.restarting = none) :
    (s.failures + 1).toNat = s.failures.toNat + 1 := by
  have := counts.running running
  rw [UInt32.toNat_add]
  exact Nat.mod_eq_of_lt (by simp; omega)

theorem counts_iterate (counts : Counts s) (running : s.restarting = none) (tick : Tick) :
    Counts (iterate s tick) := by
  have connected : (s.seenConnected || tick.connected) = true →
      (s.everConnected || tick.connected) = true := by
    intro seen
    rcases Bool.or_eq_true_iff.mp seen with earlier | now
    · simp [counts.connected earlier]
    · simp [now]
  rcases iterate_cases s tick with idles | probes
  · refine ⟨?_, fun _ => ?_, ?_, fun seen => ?_⟩
    · rw [idles.failures, idles.cycles]
      exact counts.streak
    · rw [idles.failures]
      exact counts.running running
    · rw [idles.threshold]
      exact counts.threshold
    · rw [idles.ever]
      exact connected (idles.seen seen)
  · obtain ⟨lastProbeS, probed⟩ := probes.probed
    obtain ⟨cycles, threshold, ever, done⟩ := probe_cases { s with
      seenConnected := true, lastProbeS, everConnected := s.everConnected || tick.connected } tick
    rw [← probed] at cycles threshold ever done
    refine ⟨?_, fun on => ?_, ?_, fun _ => ?_⟩
    · rw [cycles]
      rcases done with ⟨ended, zero, _⟩ | ⟨failed, raised, _⟩
      · rw [zero, streak_concat_of_not ended]
        rfl
      · rw [raised, streak_concat failed, counts.raised running, counts.streak]
    · rcases done with ⟨_, zero, _⟩ | ⟨_, raised, restarting⟩
      · rw [zero]
        decide
      · rw [on] at restarting
        split at restarting
        · cases restarting
        · rename_i under
          rw [UInt32.not_le, UInt32.lt_iff_toNat_lt] at under
          rw [raised]
          exact under.trans_le counts.threshold
    · rw [threshold]
      exact counts.threshold
    · rw [ever]
      exact connected probes.seen

theorem counts_step (counts : Counts s) (a : Action) (guard : Guard s a) :
    Counts (effect s config a) := by
  cases a with
  | iterate tick => exact counts_iterate counts guard tick
  | forceFailTest => exact ⟨counts.streak, counts.running, counts.threshold, counts.connected⟩
  | boot stored => exact counts_start config stored
  | setParams enabled intervalS threshold =>
      simp only [effect, setParams]
      split
      · exact counts
      · split
        · exact counts
        · rename_i range
          refine ⟨counts.streak, counts.running, ?_, counts.connected⟩
          dsimp only
          split
          · rw [UInt32.toNat_ofNat']
            refine (Nat.mod_le _ _).trans ?_
            omega
          · exact counts.threshold

theorem counts_reachable {stored : Stored} (path : (system config stored).Reachable s) :
    Counts s := by
  refine path.invariant (P := Counts) (counts_start config stored) ?_
  intro s a counts guard
  exact counts_step counts a guard

/-! ## Reboots -/

/-- `n` is the length of the longest suffix of cycles that were all associated and failed. -/
def FailedLast (cycles : List Cycle) (n : Nat) : Prop :=
  IsGreatest {n | ∃ suffix, suffix <:+ cycles ∧ (∀ cycle ∈ suffix, cycle.failed = true) ∧
    suffix.length = n} n

theorem failedLast_iff {cycles : List Cycle} {n : Nat} :
    FailedLast cycles n ↔ n = streak Cycle.failed cycles :=
  ⟨fun greatest => greatest.unique (isGreatest_streak _ _), fun same => same ▸ isGreatest_streak _ _⟩

theorem reboot_iff (counts : Counts s) (running : s.restarting = none) (tick : Tick) :
    (iterate s tick).restarting = some .unreachable ↔
      ∃ cycle, cycle.failed = true ∧ (iterate s tick).cycles = s.cycles ++ [cycle] ∧
        s.threshold.toNat ≤ streak Cycle.failed (s.cycles ++ [cycle]) := by
  rcases iterate_cases s tick with idles | probes
  · refine iff_of_false (fun reboot => ?_) ?_
    · have other := idles.restarting
      rw [running, reboot] at other
      rcases other with none | selfTest
      · cases none
      · cases selfTest
    · rintro ⟨cycle, _, performed, _⟩
      rw [idles.cycles] at performed
      simp at performed
  · obtain ⟨lastProbeS, probed⟩ := probes.probed
    obtain ⟨cycles, _, _, done⟩ := probe_cases { s with
      seenConnected := true, lastProbeS, everConnected := s.everConnected || tick.connected } tick
    rw [← probed] at cycles done
    rcases done with ⟨ended, _, restarting⟩ | ⟨failed, raised, restarting⟩
    · refine iff_of_false (fun reboot => ?_) ?_
      · rw [restarting, running] at reboot
        cases reboot
      · rintro ⟨cycle, failed, performed, _⟩
        rw [cycles, List.append_right_inj, List.singleton_inj] at performed
        rw [performed, failed] at ended
        cases ended
    · have past : s.threshold ≤ s.failures + 1 ↔
          s.threshold.toNat ≤ streak Cycle.failed (s.cycles ++ [⟨tick.associated, tick.reachable⟩]) := by
        rw [UInt32.le_iff_toNat_le, counts.raised running, streak_concat failed, counts.streak]
      rw [restarting, cycles]
      simp only [past, running]
      constructor
      · intro reboot
        split at reboot
        · exact ⟨_, failed, rfl, ‹_›⟩
        · cases reboot
      · rintro ⟨cycle, _, performed, reached⟩
        rw [List.append_right_inj, List.singleton_inj] at performed
        subst performed
        rw [if_pos reached]

end Counter

/-- **The watchdog.** In every run `g_failures` is the length of the longest suffix of probe cycles
that were all associated and failed. An iteration reboots exactly if it performs a cycle that is
associated and fails, and the suffix is then as long as the threshold; it does so only if the
watchdog is enabled, the grace period is over and the station has been connected. The cycles are
those of the iterations at which one was due. -/
theorem liveness (config : Config) (stored : Stored) (s : State)
    (path : (system config stored).Reachable s) :
    FailedLast s.cycles s.failures.toNat ∧
      ∀ tick, (system config stored).Guard s (.iterate tick) →
        ((iterate s tick).restarting = some .unreachable ↔
          ∃ cycle n, cycle.associated = true ∧ cycle.reachable = false ∧
            (iterate s tick).cycles = s.cycles ++ [cycle] ∧
            FailedLast (iterate s tick).cycles n ∧ s.threshold.toNat ≤ n) ∧
        ((iterate s tick).restarting = some .unreachable →
          s.enabled = true ∧ graceS.toNat ≤ tick.uptime ∧
            (iterate s tick).everConnected = true) ∧
        (iterate s tick).cycles =
          s.cycles ++ if Due s tick then [⟨tick.associated, tick.reachable⟩] else [] := by
  have counts := counts_reachable path
  refine ⟨failedLast_iff.mpr counts.streak,
    fun tick running => ⟨?_, fun reboot => ?_, cycles_iterate s tick⟩⟩
  · rw [reboot_iff counts running tick]
    constructor
    · rintro ⟨cycle, failed, performed, reached⟩
      simp only [Cycle.failed, Bool.and_eq_true, Bool.not_eq_true'] at failed
      exact ⟨cycle, _, failed.1, failed.2, performed, failedLast_iff.mpr rfl, performed ▸ reached⟩
    · rintro ⟨cycle, n, associated, failed, performed, longest, reached⟩
      rw [failedLast_iff.mp longest, performed] at reached
      exact ⟨cycle, by simp [Cycle.failed, associated, failed], performed, reached⟩
  · rcases iterate_cases s tick with idles | probes
    · have other := idles.restarting
      rw [show s.restarting = none from running, reboot] at other
      rcases other with none | selfTest
      · cases none
      · cases selfTest
    · have probed := counts_iterate counts running tick
      refine ⟨probes.enabled, probes.grace, probed.connected ?_⟩
      obtain ⟨lastProbeS, same⟩ := probes.probed
      rw [same]
      unfold probe
      dsimp only
      split
      · rfl
      · split
        · rfl
        · split <;> rfl

/-- The station is associated, and nothing can be reached. -/
def deadPath (uptime : Nat) : Tick :=
  { uptime, connected := true, associated := true, reachable := false }

def twoFailures : Config where
  intervalS := 30
  threshold := 2
  interval_range := by decide
  threshold_range := by decide

/-- With a threshold of 2, the second failed cycle reboots. -/
theorem liveness_two_failures :
    ∃ s, FailedLast s.cycles 1 ∧ (iterate s (deadPath 3700)).restarting = some .unreachable ∧
      s.enabled = true ∧ (iterate s (deadPath 3700)).everConnected = true := by
  let s := (system twoFailures {}).final [.iterate (deadPath 80), .iterate (deadPath 100)]
  have path : (system twoFailures {}).Reachable s := (system twoFailures {}).reachable_final _
  obtain ⟨longest, reboots⟩ := liveness twoFailures {} s path
  have reboot : (iterate s (deadPath 3700)).restarting = some .unreachable := by decide +kernel
  have allowed := (reboots (deadPath 3700) (by decide +kernel)).2.1 reboot
  exact ⟨s, longest, reboot, allowed.1, allowed.2.2⟩

end NimbleProxy.Liveness.Watchdog
