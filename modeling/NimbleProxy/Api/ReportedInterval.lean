/-
# Api.ReportedInterval -- GET /advitvl against what the user has set

Whether the device advertises is decided by two switches: the one of the user, which
POST /advitvl turns, and the gate of the power supervisor and the OTA hooks. Only the
first is a setting. `build_advitvl_json` asks `advertising_enabled`, which is both
together, so that a suspended advertiser is reported as one that is switched off.

The system is the one of the power supervisor with the requests to /advitvl beside it.
What the user set last (`last`) is kept by every other step (`Intends`), and
`reported_interval` says when it is what is reported, and when the dashboard shows it.
-/
import NimbleProxy.Api.Reboot
import NimbleProxy.Backend.PowerSupervisor

namespace NimbleProxy.Api.ReportedInterval

open NimbleProxy.Theory ActionSystem NimbleProxy.Backend NimbleProxy.Api.Settings

set_option autoImplicit false

/-! ## What an accepted request leaves -/

/-- The radio has the setting `ms`: -1 for off, 0 for the default. -/
def Intends (ms : Int) (radio : Radio) : Prop :=
  radio.advEnabled = decide (ms ≠ -1) ∧
    (ms ≠ -1 → ∃ n : Nat, ms = n ∧ (n = 0 ∨ 20 ≤ n) ∧ n ≤ 10240 ∧
      radio.advIntervalUnits = Radio.advUnits (UInt16.ofNat n))

section Handler

variable {d d' : Device} {query : Query} {answers : Answers}

theorem advitvlSet_error {text : String}
    (error : handleAdvitvlSet d query answers = (d', some text)) : d' = d := by
  unfold handleAdvitvlSet at error
  dsimp only at error
  repeat' split at error
  all_goals
    cases error
    try rfl

theorem advitvlSet_ok (ok : handleAdvitvlSet d query answers = (d', none)) :
    ∃ val, query "ms" = some val ∧ Intends (atoi val) d'.ram.radio := by
  unfold handleAdvitvlSet at ok
  split at ok
  · cases ok
  rename_i val given
  refine ⟨val, given, ?_⟩
  dsimp only at ok
  split at ok
  · cases ok
  split at ok
  · cases ok
  rename_i inside notShort
  split at ok
  · cases ok
  split at ok
  · cases ok
  obtain rfl := (congrArg Prod.fst ok).symm
  by_cases off : atoi val = -1
  · obtain ⟨_, disabled⟩ :=
      Radio.setAdvertisingEnabled_eq (r := d.ram.radio) false answers.advStart
    simp only [off, decide_true, if_true, disabled]
    exact ⟨rfl, fun on => absurd rfl on⟩
  · obtain ⟨n, parsed⟩ : ∃ n : Nat, atoi val = n := Int.eq_ofNat_of_zero_le (by omega)
    obtain ⟨running, interval⟩ :=
      Radio.setAdvIntervalMs_eq (r := d.ram.radio) (UInt16.ofNat n) answers.advStart
    obtain ⟨_, enabled⟩ := Radio.setAdvertisingEnabled_eq (r := { d.ram.radio with
      advIntervalUnits := Radio.advUnits (UInt16.ofNat n), advertising := running }) true
      answers.advStart
    have on : ¬ (n : Int) = -1 := by omega
    simp only [parsed, on, decide_false, Bool.false_eq_true, if_false, Int.toNat_natCast, interval,
      enabled]
    refine ⟨by simp, fun _ => ⟨n, rfl, ?_, ?_, rfl⟩⟩
    · omega
    · omega

end Handler

/-! ## The system -/

structure State where
  power : PowerSupervisor.State
  nvs : Nvs
  /-- the `ms` of the last accepted POST /advitvl -/
  last : Option Int := none

def State.radio (s : State) : Radio := s.power.radio

/-- The part of the device that the handler of /advitvl sees. -/
def State.device (s : State) : Device where
  ram := { radio := s.radio }
  nvs := s.nvs

inductive Action
  | advitvlSet (query : Query) (answers : Answers)
  /-- the power supervisor, the OTA hooks, and the other users of the radio -/
  | other (a : PowerSupervisor.Action)

/-- The switch and the interval are turned by the handler only. -/
def Guard : Action → Prop
  | .other (.setAdvertisingEnabled ..) | .other (.setAdvIntervalMs ..) => False
  | _ => True

instance : (a : Action) → Decidable (Guard a)
  | .other (.setAdvertisingEnabled ..) | .other (.setAdvIntervalMs ..) => isFalse nofun
  | .advitvlSet .. | .other (.wake _) | .other (.central _) | .other (.peripheral _)
  | .other (.backendStart _) | .other .pause | .other (.resume _) | .other .scanStopped
  | .other (.setDuty ..) | .other (.setActive ..) | .other (.startAdv _) | .other .stopAdv
  | .other .quiesceForOta | .other (.resumeAfterOta ..) | .other .powerOff => isTrue trivial

def advitvlSet (s : State) (query : Query) (answers : Answers) : State :=
  match handleAdvitvlSet s.device query answers with
  | (d, none) =>
      { power := { s.power with radio := d.ram.radio }, nvs := d.nvs
        last := (query "ms").map atoi }
  | (d, some _) => { s with power := { s.power with radio := d.ram.radio }, nvs := d.nvs }

def effect (idleSecs : Nat) (s : State) : Action → State
  | .advitvlSet query answers => advitvlSet s query answers
  | .other a => { s with power := PowerSupervisor.effect idleSecs s.power a }

def system (idleSecs : Nat) (start : State) : ActionSystem State Action where
  init := { start with last := none }
  Guard _ := Guard
  guardDecidable _ := inferInstance
  effect := effect idleSecs

/-! ## Who turns the setting -/

/-- Both have the same setting. -/
def SameSetting (r r' : Radio) : Prop :=
  r'.advEnabled = r.advEnabled ∧ r'.advIntervalUnits = r.advIntervalUnits

section SameSetting

variable {r : Radio}

theorem sameSetting_setAdvertisingAutoSuspend (suspend ok : Bool) :
    SameSetting r (r.setAdvertisingAutoSuspend suspend ok) := by
  rw [Radio.setAdvertisingAutoSuspend, Radio.applyAdvState_eq]
  exact ⟨rfl, rfl⟩

theorem sameSetting_pause : SameSetting r r.pause := by
  rw [Radio.pause_eq]
  exact ⟨rfl, rfl⟩

theorem sameSetting_resume (ok : Bool) : SameSetting r (r.resume ok) := by
  rw [Radio.resume_eq]
  exact ⟨rfl, rfl⟩

theorem sameSetting_restartScan (ok : Bool) : SameSetting r (r.restartScan ok) := by
  obtain ⟨_, done⟩ := Radio.restartScan_eq (r := r) ok
  rw [done]
  exact ⟨rfl, rfl⟩

theorem sameSetting_start (ok : Bool) : SameSetting r (r.start ok) := by
  unfold Radio.start Radio.startScan
  repeat' split
  all_goals exact ⟨rfl, rfl⟩

theorem sameSetting_quiesceForOta : SameSetting r r.quiesceForOta := by
  have paused : SameSetting r { r with otaQuiesce := true }.pause := by
    rw [Radio.pause_eq]
    exact ⟨rfl, rfl⟩
  obtain ⟨enabled, units⟩ := sameSetting_setAdvertisingAutoSuspend
    (r := { r with otaQuiesce := true }.pause) true true
  exact ⟨enabled.trans paused.1, units.trans paused.2⟩

theorem sameSetting_resumeAfterOta (scanOk advOk : Bool) :
    SameSetting r (r.resumeAfterOta scanOk advOk) := by
  have resumed : SameSetting r ({ r with otaQuiesce := false }.resume scanOk) := by
    rw [Radio.resume_eq]
    exact ⟨rfl, rfl⟩
  obtain ⟨enabled, units⟩ := sameSetting_setAdvertisingAutoSuspend
    (r := { r with otaQuiesce := false }.resume scanOk) false advOk
  exact ⟨enabled.trans resumed.1, units.trans resumed.2⟩

end SameSetting

theorem sameSetting_central (idleSecs : Nat) (s : PowerSupervisor.State) (needed ok : Bool) :
    SameSetting s.radio (PowerSupervisor.central idleSecs s needed ok).radio := by
  unfold PowerSupervisor.central
  split
  · exact sameSetting_resume ok
  · exact sameSetting_pause
  · exact ⟨rfl, rfl⟩

theorem sameSetting_peripheral (idleSecs : Nat) (s : PowerSupervisor.State) (needed ok : Bool) :
    SameSetting s.radio (PowerSupervisor.peripheral idleSecs s needed ok).radio := by
  unfold PowerSupervisor.peripheral
  split
  · exact sameSetting_setAdvertisingAutoSuspend false ok
  · exact sameSetting_setAdvertisingAutoSuspend true ok
  · exact ⟨rfl, rfl⟩

/-- No step but a request touches the setting. -/
theorem sameSetting_other (idleSecs : Nat) (s : PowerSupervisor.State) {a : PowerSupervisor.Action}
    (guard : Guard (.other a)) :
    SameSetting s.radio (PowerSupervisor.effect idleSecs s a).radio := by
  cases a with
  | wake o =>
      simp only [PowerSupervisor.effect]
      split <;> exact ⟨rfl, rfl⟩
  | central ok =>
      simp only [PowerSupervisor.effect]
      split
      · exact sameSetting_central idleSecs s _ ok
      · exact ⟨rfl, rfl⟩
  | peripheral ok =>
      simp only [PowerSupervisor.effect]
      split
      · exact sameSetting_peripheral idleSecs s _ ok
      · exact ⟨rfl, rfl⟩
  | backendStart ok => exact sameSetting_start ok
  | pause => exact sameSetting_pause
  | resume ok => exact sameSetting_resume ok
  | scanStopped => exact ⟨rfl, rfl⟩
  | setDuty windowMs intervalMs ok =>
      simp only [PowerSupervisor.effect, Radio.setDuty]
      split
      · exact ⟨rfl, rfl⟩
      · exact sameSetting_restartScan (r := { s.radio with windowMs, intervalMs }) ok
  | setActive on ok =>
      simp only [PowerSupervisor.effect, Radio.setActive]
      split
      · exact ⟨rfl, rfl⟩
      · exact sameSetting_restartScan (r := { s.radio with activeScan := on }) ok
  | setAdvertisingEnabled on ok => exact guard.elim
  | setAdvIntervalMs ms ok => exact guard.elim
  | startAdv ok =>
      simp only [PowerSupervisor.effect, Radio.startAdv]
      split <;> exact ⟨rfl, rfl⟩
  | stopAdv => exact ⟨rfl, rfl⟩
  | quiesceForOta => exact sameSetting_quiesceForOta
  | resumeAfterOta scanOk advOk => exact sameSetting_resumeAfterOta scanOk advOk
  | powerOff =>
      simp only [PowerSupervisor.effect, Radio.powerOff]
      split <;> exact ⟨rfl, rfl⟩

theorem Intends.of_sameSetting {ms : Int} {r r' : Radio} (intends : Intends ms r)
    (same : SameSetting r r') : Intends ms r' := by
  unfold Intends
  rw [same.1, same.2]
  exact intends

/-- The radio has what the user set last. -/
def Kept (s : State) : Prop := ∀ ms, s.last = some ms → Intends ms s.radio

theorem kept_step {idleSecs : Nat} {s : State} (kept : Kept s) (a : Action) (guard : Guard a) :
    Kept (effect idleSecs s a) := by
  cases a with
  | other a =>
      intro ms last
      exact (kept ms last).of_sameSetting (sameSetting_other idleSecs s.power guard)
  | advitvlSet query answers =>
      intro ms last
      simp only [effect, advitvlSet] at last ⊢
      cases answer : handleAdvitvlSet s.device query answers with
      | mk d error =>
          cases error with
          | none =>
              obtain ⟨val, given, intends⟩ := advitvlSet_ok answer
              simp only [answer, given, Option.map_some, Option.some.injEq] at last
              subst last
              exact intends
          | some text =>
              obtain rfl := advitvlSet_error answer
              simp only [answer] at last
              exact kept ms last

theorem kept_reachable {idleSecs : Nat} {start s : State}
    (path : (system idleSecs start).Reachable s) : Kept s := by
  refine path.invariant (P := Kept) ?_ fun s a kept guard => kept_step kept a guard
  intro ms last
  cases last

/-! ## The report -/

/-- The values of the `advitvl` select of the dashboard. -/
def presets : List Int := [-1, 0, 100, 200, 500, 1000, 2000]

/-- What the select of a page shows once it has read the report: the preset that fits, and else
what a select starts with, its first option. -/
def selected (ms : Int) : Int := (presets.find? fun preset => preset = ms).getD (-1)

theorem selected_eq_off {ms : Int} : selected ms = -1 ↔ ms = -1 ∨ ms ∉ presets := by
  unfold selected
  cases found : presets.find? fun preset => preset = ms with
  | none =>
      rw [List.find?_eq_none] at found
      have missing : ms ∉ presets := fun mem => found ms mem (decide_eq_true rfl)
      simp [missing]
  | some preset =>
      have same : preset = ms := by simpa using List.find?_some found
      subst same
      have mem : preset ∈ presets := List.mem_of_find?_eq_some found
      simp [mem]

/-- A setting is reported unless the gate hides it. -/
theorem Intends.reported {ms : Int} {radio : Radio} (intends : Intends ms radio) :
    advitvlMs radio = ms ↔ radio.advAutoSuspend = false ∨ ms = -1 := by
  obtain ⟨enabled, interval⟩ := intends
  by_cases off : ms = -1
  · subst off
    simp [advitvlMs, Radio.advAllowed, enabled]
  · obtain ⟨n, rfl, low, high, units⟩ := interval off
    have on : radio.advEnabled = true := by simp [enabled, off]
    cases suspend : radio.advAutoSuspend with
    | true => simp [advitvlMs, Radio.advAllowed, suspend, eq_comm]
    | false =>
        have allowed : radio.advAllowed = true := by simp [Radio.advAllowed, on, suspend]
        simp [advitvlMs_advUnits low high units allowed]

/-- **When the report is the setting.** After any run, the reported interval is the one of the
last accepted request exactly if advertising is not suspended or that request switched it off.
The dashboard shows an advertiser that was left on as one that is on exactly if, beside that, the
interval is one of the presets. -/
theorem reported_interval (idleSecs : Nat) (start s : State)
    (path : (system idleSecs start).Reachable s) (ms : Int) (last : s.last = some ms) :
    (advitvlMs s.radio = ms ↔ s.radio.advAutoSuspend = false ∨ ms = -1) ∧
      ((advitvlMs s.radio = ms ∧ (selected (advitvlMs s.radio) = -1 → ms = -1)) ↔
        ms = -1 ∨ s.radio.advAutoSuspend = false ∧ ms ∈ presets) := by
  have reported := (kept_reachable path ms last).reported
  refine ⟨reported, ?_⟩
  by_cases same : advitvlMs s.radio = ms
  · have shown := reported.mp same
    rw [same, selected_eq_off]
    constructor
    · rintro ⟨_, honest⟩
      by_cases off : ms = -1
      · exact .inl off
      · exact .inr ⟨shown.resolve_right off, not_not.mp fun missing => off (honest (.inr missing))⟩
    · rintro (off | ⟨_, preset⟩)
      · exact ⟨rfl, fun _ => off⟩
      · exact ⟨rfl, fun hidden => hidden.resolve_right (absurd preset)⟩
  · have hidden : ¬ (s.radio.advAutoSuspend = false ∨ ms = -1) := fun shown => same (reported.mpr shown)
    refine iff_of_false (fun both => same both.1) ?_
    rintro (off | ⟨awake, _⟩)
    · exact hidden (.inr off)
    · exact hidden (.inl awake)

/-- A device after its boot, on which WiFi is up and nothing needs BLE. -/
def idleDevice : State where
  power := { radio := { started := true, hostUp := true, scan := true } }
  nvs := fun _ => none

/-- The default interval is set, and then the supervisor looks around once. -/
def idleRound : List Action :=
  [.advitvlSet (fun _ => some "0") {},
    .other (.wake ⟨none, some false, some true, false, false⟩),
    .other (.central true), .other (.peripheral true)]

/-- The suspended advertiser is reported, and shown, as one that is off. -/
theorem suspended_reported_off :
    ∃ s, (system 2 idleDevice).Reachable s ∧ s.last = some 0 ∧ advitvlMs s.radio = -1 ∧
      selected (advitvlMs s.radio) = -1 := by
  refine ⟨(system 2 idleDevice).final idleRound, reachable_final _ _, ?_⟩
  decide +kernel

theorem reported_interval_idle :
    ¬ advitvlMs ((system 2 idleDevice).final idleRound).radio = 0 :=
  fun same => absurd
    ((reported_interval 2 idleDevice _ (reachable_final _ idleRound) 0 (by decide +kernel)).1.mp same)
    (by decide +kernel)

end NimbleProxy.Api.ReportedInterval
