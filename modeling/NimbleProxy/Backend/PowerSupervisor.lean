/-
# Backend.PowerSupervisor -- whether an idle radio comes to rest

`power::supervisor_task` pauses the scan when nobody has needed it for `IDLE_TICKS`
rounds, and suspends advertising in the same way. It remembers that it has done so
(`scan_quiesced`, `adv_suspended`) and looks at nothing else: not at the radio. Others
resume the scan behind its back (trace off, a connection's callbacks, the clone, the OTA
hook), and `resume_after_ota` lifts the suspension. From then on the flag says that
there is nothing to do, until the role is needed once.

A round is three actions: the look at the roles, and what is done about each of the two.
The other users of the radio may act between any of them.
-/
import NimbleProxy.Theory.ActionSystem
import NimbleProxy.Backend.Radio

namespace NimbleProxy.Backend.PowerSupervisor

open NimbleProxy.Theory ActionSystem

set_option autoImplicit false

/-! ## The system -/

/-- `IDLE_TICKS`, from `CONFIG_NBP_BLE_AUTO_OFF_IDLE_SECS`. -/
def idleTicks (idleSecs : Nat) : Nat :=
  if 0 < idleSecs * 1000 / 2000 then idleSecs * 1000 / 2000 else 1

theorem idleTicks_pos (idleSecs : Nat) : 0 < idleTicks idleSecs := by
  unfold idleTicks
  split
  · assumption
  · exact Nat.one_pos

/-- What a round reads; a hook that is null is `none`. -/
structure Observed where
  cloneActive : Option Bool
  apiClientConnected : Option Bool
  wifiConnected : Option Bool
  gattLinks : Bool
  peripheralCentral : Bool

namespace Observed

variable (o : Observed)

def centralNeeded : Bool :=
  o.apiClientConnected.getD true || o.gattLinks || o.cloneActive.getD false

def peripheralNeeded : Bool :=
  !o.wifiConnected.getD false || o.peripheralCentral || o.cloneActive.getD false

end Observed

/-- Where the task is. -/
inductive Pc
  /-- in `vTaskDelay` -/
  | delay
  /-- about to see to the scan -/
  | central (centralNeeded peripheralNeeded : Bool)
  /-- about to see to advertising -/
  | peripheral (peripheralNeeded : Bool)
  deriving DecidableEq

/-- What the task remembers of a role. -/
structure Role where
  /-- `central_idle`, `periph_idle` -/
  idle : Nat := 0
  /-- `scan_quiesced`, `adv_suspended` -/
  quiesced : Bool := false
  deriving DecidableEq

/-- What a round decides to do about a role. -/
inductive Order
  | nothing | quiesce | restore
  deriving DecidableEq

/-- The two halves of a round, which differ in the role only. -/
def Role.round (ticks : Nat) (role : Role) (needed : Bool) : Role × Order :=
  if needed then
    if role.quiesced then ({ idle := 0, quiesced := false }, .restore)
    else ({ role with idle := 0 }, .nothing)
  else if role.quiesced then (role, .nothing)
  else if ticks ≤ role.idle + 1 then ({ idle := role.idle + 1, quiesced := true }, .quiesce)
  else ({ role with idle := role.idle + 1 }, .nothing)

structure State where
  radio : Radio := {}
  pc : Pc := .delay
  central : Role := {}
  periph : Role := {}
  deriving DecidableEq

/-- What the task does about the scan. -/
def central (idleSecs : Nat) (s : State) (needed ok : Bool) : State :=
  match s.central.round (idleTicks idleSecs) needed with
  | (central, .restore) => { s with central, radio := s.radio.resume ok }
  | (central, .quiesce) => { s with central, radio := s.radio.pause }
  | (central, .nothing) => { s with central }

/-- What the task does about advertising. -/
def peripheral (idleSecs : Nat) (s : State) (needed ok : Bool) : State :=
  match s.periph.round (idleTicks idleSecs) needed with
  | (periph, .restore) => { s with periph, radio := s.radio.setAdvertisingAutoSuspend false ok }
  | (periph, .quiesce) => { s with periph, radio := s.radio.setAdvertisingAutoSuspend true ok }
  | (periph, .nothing) => { s with periph }

inductive Action
  /-- the task wakes up and looks at the roles -/
  | wake (o : Observed)
  | central (ok : Bool)
  | peripheral (ok : Bool)
  | backendStart (ok : Bool)
  /-- `scanner::pause`: trace on, the clone supervisor, `activate` -/
  | pause
  /-- `scanner::resume`: trace off, the callbacks of connection and clone, `activate` -/
  | resume (ok : Bool)
  /-- the scan is stopped for a connect procedure -/
  | scanStopped
  | setDuty (windowMs intervalMs : UInt16) (ok : Bool)
  | setActive (on ok : Bool)
  | setAdvertisingEnabled (on ok : Bool)
  | setAdvIntervalMs (ms : UInt16) (ok : Bool)
  /-- a start of the server callbacks, of `activate` or of `start_advertising` -/
  | startAdv (ok : Bool)
  | stopAdv
  | quiesceForOta
  | resumeAfterOta (scanOk advOk : Bool)
  | powerOff

/-- What is not the task's own is not called after a power-off. -/
def Guard (s : State) : Action → Prop
  | .wake _ => s.pc = .delay
  | .central _ => ∃ needed needed', s.pc = .central needed needed'
  | .peripheral _ => ∃ needed, s.pc = .peripheral needed
  | .startAdv _ => s.radio.advAllowed = true ∧ s.radio.hostUp = true ∧ s.radio.poweredOff = false
  | _ => s.radio.poweredOff = false

def effect (idleSecs : Nat) (s : State) : Action → State
  | .wake o =>
      if s.radio.poweredOff || s.radio.otaQuiesce then s
      else { s with pc := .central o.centralNeeded o.peripheralNeeded }
  | .central ok =>
      match s.pc with
      | .central needed needed' => { central idleSecs s needed ok with pc := .peripheral needed' }
      | _ => s
  | .peripheral ok =>
      match s.pc with
      | .peripheral needed => { peripheral idleSecs s needed ok with pc := .delay }
      | _ => s
  | .backendStart ok => { s with radio := s.radio.start ok }
  | .pause => { s with radio := s.radio.pause }
  | .resume ok => { s with radio := s.radio.resume ok }
  | .scanStopped => { s with radio := { s.radio with scanning := false } }
  | .setDuty windowMs intervalMs ok => { s with radio := s.radio.setDuty windowMs intervalMs ok }
  | .setActive on ok => { s with radio := s.radio.setActive on ok }
  | .setAdvertisingEnabled on ok => { s with radio := s.radio.setAdvertisingEnabled on ok }
  | .setAdvIntervalMs ms ok => { s with radio := s.radio.setAdvIntervalMs ms ok }
  | .startAdv ok => { s with radio := s.radio.startAdv ok }
  | .stopAdv => { s with radio := s.radio.stopAdv }
  | .quiesceForOta => { s with radio := s.radio.quiesceForOta }
  | .resumeAfterOta scanOk advOk => { s with radio := s.radio.resumeAfterOta scanOk advOk }
  | .powerOff => { s with radio := s.radio.powerOff }

instance (s : State) : (a : Action) → Decidable (Guard s a)
  | .wake _ => inferInstanceAs (Decidable (_ = _))
  | .central _ =>
      match pc : s.pc with
      | .central needed needed' => isTrue ⟨needed, needed', pc⟩
      | .delay => isFalse fun ⟨_, _, other⟩ => by rw [pc] at other; cases other
      | .peripheral _ => isFalse fun ⟨_, _, other⟩ => by rw [pc] at other; cases other
  | .peripheral _ =>
      match pc : s.pc with
      | .peripheral needed => isTrue ⟨needed, pc⟩
      | .delay => isFalse fun ⟨_, other⟩ => by rw [pc] at other; cases other
      | .central _ _ => isFalse fun ⟨_, other⟩ => by rw [pc] at other; cases other
  | .startAdv _ => inferInstanceAs (Decidable (_ ∧ _ ∧ _))
  | .backendStart _ | .pause | .resume _ | .scanStopped | .setDuty .. | .setActive ..
  | .setAdvertisingEnabled .. | .setAdvIntervalMs .. | .stopAdv | .quiesceForOta
  | .resumeAfterOta .. | .powerOff => inferInstanceAs (Decidable (_ = _))

def system (idleSecs : Nat) : ActionSystem State Action where
  init := {}
  Guard := Guard
  guardDecidable := inferInstance
  effect := effect idleSecs

/-! ## The windows -/

/-- A step of a time in which the central role is not needed and nothing but the task touches the
scanner. -/
def CentralIdle (s : State) : Action → Prop
  | .wake o => o.centralNeeded = false ∧ s.radio.poweredOff = false ∧ s.radio.otaQuiesce = false
  | .central _ | .peripheral _ | .setAdvertisingEnabled .. | .setAdvIntervalMs .. | .startAdv _
  | .stopAdv => True
  | _ => False

/-- A step of a time in which the peripheral role is not needed and nothing but the task touches the
suspension. -/
def PeripheralIdle (s : State) : Action → Prop
  | .wake o => o.peripheralNeeded = false ∧ s.radio.poweredOff = false ∧ s.radio.otaQuiesce = false
  | .quiesceForOta | .resumeAfterOta .. | .powerOff => False
  | _ => True

instance (s : State) : (a : Action) → Decidable (CentralIdle s a)
  | .wake _ => inferInstanceAs (Decidable (_ ∧ _ ∧ _))
  | .central _ | .peripheral _ | .setAdvertisingEnabled .. | .setAdvIntervalMs .. | .startAdv _
  | .stopAdv => inferInstanceAs (Decidable True)
  | .backendStart _ | .pause | .resume _ | .scanStopped | .setDuty .. | .setActive ..
  | .quiesceForOta | .resumeAfterOta .. | .powerOff => inferInstanceAs (Decidable False)

instance (s : State) : (a : Action) → Decidable (PeripheralIdle s a)
  | .wake _ => inferInstanceAs (Decidable (_ ∧ _ ∧ _))
  | .quiesceForOta | .resumeAfterOta .. | .powerOff => inferInstanceAs (Decidable False)
  | .central _ | .peripheral _ | .setAdvertisingEnabled .. | .setAdvIntervalMs .. | .startAdv _
  | .stopAdv | .backendStart _ | .pause | .resume _ | .scanStopped | .setDuty .. | .setActive .. =>
      inferInstanceAs (Decidable True)

def Action.isCentral : Action → Bool
  | .central _ => true
  | _ => false

def Action.isPeripheral : Action → Bool
  | .peripheral _ => true
  | _ => false

/-! ## A role that is not needed -/

/-- After `k` rounds of a role that is not needed. Was it quiesced before, its switch is as it was
then (`on₀`); otherwise it is off, or the rounds are still being counted. -/
def Rests (ticks k : Nat) (before : Role) (on₀ : Bool) (role : Role) (on : Bool) : Prop :=
  (before.quiesced = true ∧ role.quiesced = true ∧ on = on₀) ∨
    (before.quiesced = false ∧ role.quiesced = true ∧ on = false) ∨
    (before.quiesced = false ∧ role.quiesced = false ∧ k ≤ role.idle ∧ k < ticks)

section Role

variable {ticks k : Nat} {before role : Role} {on₀ on : Bool}

theorem rests_start (pos : 0 < ticks) (role : Role) (on : Bool) : Rests ticks 0 role on role on := by
  cases quiesced : role.quiesced with
  | true => exact .inl ⟨quiesced, quiesced, rfl⟩
  | false => exact .inr (.inr ⟨quiesced, quiesced, Nat.zero_le _, pos⟩)

/-- One round more. -/
theorem Rests.round (rests : Rests ticks k before on₀ role on) :
    Rests ticks (k + 1) before on₀ (role.round ticks false).1
      (if (role.round ticks false).2 = .quiesce then false else on) := by
  rcases rests with ⟨was, quiesced, same⟩ | ⟨was, quiesced, off⟩ | ⟨was, counting, atLeast, below⟩
  · exact .inl ⟨was, by simp [Role.round, quiesced], by simp [Role.round, quiesced, same]⟩
  · exact .inr (.inl ⟨was, by simp [Role.round, quiesced], by simp [Role.round, quiesced, off]⟩)
  · by_cases full : ticks ≤ role.idle + 1
    · exact .inr (.inl ⟨was, by simp [Role.round, counting, full], by simp [Role.round, counting, full]⟩)
    · refine .inr (.inr ⟨was, by simp [Role.round, counting, full], ?_, by omega⟩)
      simp [Role.round, counting, full]
      omega

/-- After enough rounds. -/
theorem Rests.off_iff (rests : Rests ticks k before on₀ role on) (enough : ticks ≤ k) :
    on = false ↔ ¬ (before.quiesced = true ∧ on₀ = true) := by
  rcases rests with ⟨was, -, rfl⟩ | ⟨was, -, off⟩ | ⟨-, -, -, below⟩
  · simp [was]
  · simp [was, off]
  · omega

end Role

/-! ## The two roles -/

section Windows

variable {idleSecs k : Nat} {s t : State}

/-- Without need a role is never restored. -/
theorem not_restore (ticks : Nat) (role : Role) : (role.round ticks false).2 ≠ .restore := by
  unfold Role.round
  rw [if_neg Bool.false_ne_true]
  repeat' split
  all_goals simp

theorem central_unneeded (idleSecs : Nat) (s : State) (ok : Bool) :
    central idleSecs s false ok =
      { s with
        central := (s.central.round (idleTicks idleSecs) false).1
        radio := if (s.central.round (idleTicks idleSecs) false).2 = .quiesce then s.radio.pause
          else s.radio } := by
  have never := not_restore (idleTicks idleSecs) s.central
  unfold central
  split
  · rename_i role order
    rw [order] at never
    exact absurd rfl never
  · rename_i role order
    rw [order]
    rfl
  · rename_i role order
    rw [order]
    rfl

theorem peripheral_unneeded (idleSecs : Nat) (s : State) (ok : Bool) :
    peripheral idleSecs s false ok =
      { s with
        periph := (s.periph.round (idleTicks idleSecs) false).1
        radio := if (s.periph.round (idleTicks idleSecs) false).2 = .quiesce then
          s.radio.setAdvertisingAutoSuspend true ok else s.radio } := by
  have never := not_restore (idleTicks idleSecs) s.periph
  unfold peripheral
  split
  · rename_i role order
    rw [order] at never
    exact absurd rfl never
  · rename_i role order
    rw [order]
    rfl
  · rename_i role order
    rw [order]
    rfl

/-- The peripheral half of a round turns advertising only. -/
theorem sameScan_peripheral (idleSecs : Nat) (s : State) (needed ok : Bool) :
    Radio.SameScan s.radio (peripheral idleSecs s needed ok).radio ∧
      (peripheral idleSecs s needed ok).central = s.central := by
  unfold peripheral
  split
  · exact ⟨Radio.sameScan_setAdvertisingAutoSuspend _ _, rfl⟩
  · exact ⟨Radio.sameScan_setAdvertisingAutoSuspend _ _, rfl⟩
  · exact ⟨⟨rfl, rfl⟩, rfl⟩

/-- The central half turns the scan only. -/
theorem sameSuspend_central (idleSecs : Nat) (s : State) (needed ok : Bool) :
    (central idleSecs s needed ok).radio.advAutoSuspend = s.radio.advAutoSuspend ∧
      (central idleSecs s needed ok).periph = s.periph := by
  unfold central
  split
  · exact ⟨Radio.advAutoSuspend_resume ok, rfl⟩
  · exact ⟨Radio.advAutoSuspend_pause, rfl⟩
  · exact ⟨rfl, rfl⟩

/-- In a time in which the central role is not needed: `k` rounds after `s`. -/
structure ScanWindow (idleSecs : Nat) (s : State) (k : Nat) (t : State) : Prop where
  needs : ∀ needed needed', t.pc = .central needed needed' → needed = false
  scan : t.radio.scanning = true → t.radio.scan = true
  rests : Rests (idleTicks idleSecs) k s.central s.radio.scanning t.central t.radio.scanning

/-- In a time in which the peripheral role is not needed. The switch is the suspension that is
not on. -/
structure SuspendWindow (idleSecs : Nat) (s : State) (k : Nat) (t : State) : Prop where
  needs : (∀ needed needed', t.pc = .central needed needed' → needed' = false) ∧
    ∀ needed, t.pc = .peripheral needed → needed = false
  rests : Rests (idleTicks idleSecs) k s.periph (!s.radio.advAutoSuspend) t.periph
    (!t.radio.advAutoSuspend)

/-- A step that is no round and leaves the scan alone. -/
theorem ScanWindow.of_same {t' : State} (window : ScanWindow idleSecs s k t)
    (needs : ∀ needed needed', t'.pc = .central needed needed' → needed = false)
    (central : t'.central = t.central) (same : Radio.SameScan t.radio t'.radio) :
    ScanWindow idleSecs s k t' := by
  refine ⟨needs, ?_, ?_⟩
  · rw [same.1, same.2]
    exact window.scan
  · rw [central, same.1]
    exact window.rests

theorem scanWindow_step (window : ScanWindow idleSecs s k t) (a : Action) (guard : Guard t a)
    (idle : CentralIdle t a) :
    ScanWindow idleSecs s (k + a.isCentral.toNat) (effect idleSecs t a) := by
  cases a with
  | wake o =>
      obtain ⟨unneeded, on, free⟩ := idle
      simp only [effect, on, free, Bool.or_self, Bool.false_eq_true, if_false]
      refine window.of_same ?_ rfl ⟨rfl, rfl⟩
      intro needed needed' pc
      cases pc
      exact unneeded
  | central ok =>
      obtain ⟨needed, needed', pc⟩ := guard
      obtain rfl := window.needs needed needed' pc
      simp only [effect, pc, central_unneeded]
      have paused : t.radio.pause.scanning = false := by
        rw [Radio.pause_eq]
        cases on : t.radio.scanning with
        | false => rfl
        | true => simp [window.scan on]
      refine ⟨(fun _ _ other => by cases other), ?_, ?_⟩
      · split
        · rw [paused]
          intro on
          cases on
        · exact window.scan
      · have next := window.rests.round
        split
        · rename_i quiesce
          rw [if_pos quiesce] at next
          rw [paused]
          exact next
        · rename_i nothing
          rw [if_neg nothing] at next
          exact next
  | peripheral ok =>
      obtain ⟨needed, pc⟩ := guard
      obtain ⟨same, central⟩ := sameScan_peripheral idleSecs t needed ok
      simp only [effect, pc]
      exact window.of_same (fun _ _ other => by cases other) central same
  | setAdvertisingEnabled on ok =>
      exact window.of_same window.needs rfl (Radio.sameScan_setAdvertisingEnabled on ok)
  | setAdvIntervalMs ms ok =>
      exact window.of_same window.needs rfl (Radio.sameScan_setAdvIntervalMs ms ok)
  | startAdv ok => exact window.of_same window.needs rfl (Radio.sameScan_startAdv ok)
  | stopAdv => exact window.of_same window.needs rfl ⟨rfl, rfl⟩
  | backendStart _ | pause | resume _ | scanStopped | setDuty _ _ _ | setActive _ _
  | quiesceForOta | resumeAfterOta _ _ | powerOff => exact idle.elim

/-- A step that is no round and leaves the suspension alone. -/
theorem SuspendWindow.of_same {t' : State} (window : SuspendWindow idleSecs s k t)
    (pc : t'.pc = t.pc) (periph : t'.periph = t.periph)
    (same : t'.radio.advAutoSuspend = t.radio.advAutoSuspend) : SuspendWindow idleSecs s k t' := by
  constructor
  · rw [pc]
    exact window.needs
  · rw [periph, same]
    exact window.rests

theorem suspendWindow_step (window : SuspendWindow idleSecs s k t) (a : Action) (guard : Guard t a)
    (idle : PeripheralIdle t a) :
    SuspendWindow idleSecs s (k + a.isPeripheral.toNat) (effect idleSecs t a) := by
  cases a with
  | wake o =>
      obtain ⟨unneeded, on, free⟩ := idle
      simp only [effect, on, free, Bool.or_self, Bool.false_eq_true, if_false]
      refine ⟨⟨?_, (fun _ other => by cases other)⟩, window.rests⟩
      intro needed needed' pc
      cases pc
      exact unneeded
  | central ok =>
      obtain ⟨needed, needed', pc⟩ := guard
      obtain ⟨same, periph⟩ := sameSuspend_central idleSecs t needed ok
      simp only [effect, pc]
      refine ⟨⟨(fun _ _ other => by cases other), ?_⟩, ?_⟩
      · intro needed'' other
        cases other
        exact window.needs.1 needed needed' pc
      · simp only [periph, same]
        exact window.rests
  | peripheral ok =>
      obtain ⟨needed, pc⟩ := guard
      obtain rfl := window.needs.2 needed pc
      simp only [effect, pc, peripheral_unneeded]
      refine ⟨⟨(fun _ _ other => by cases other), (fun _ other => by cases other)⟩, ?_⟩
      have next := window.rests.round
      split
      · rename_i quiesce
        rw [if_pos quiesce] at next
        rw [Radio.advAutoSuspend_setAdvertisingAutoSuspend]
        exact next
      · rename_i nothing
        rw [if_neg nothing] at next
        exact next
  | setAdvertisingEnabled _ _ | setAdvIntervalMs _ _ | startAdv _ | stopAdv | backendStart _ | pause
  | resume _ | scanStopped | setDuty _ _ _ | setActive _ _ =>
      exact window.of_same rfl rfl (by simp [effect, Radio.stopAdv])
  | quiesceForOta | resumeAfterOta _ _ | powerOff => exact idle.elim

end Windows

/-! ## The result -/

theorem scanLive_step {idleSecs : Nat} {s : State} (live : s.radio.ScanLive) (a : Action) :
    (effect idleSecs s a).radio.ScanLive := by
  cases a with
  | wake o =>
      simp only [effect]
      split <;> exact live
  | central ok =>
      simp only [effect]
      split
      · simp only [central]
        split
        · exact live.resume ok
        · exact live.pause
        · exact live
      · exact live
  | peripheral ok =>
      simp only [effect]
      split
      · exact live.of_sameScan (sameScan_peripheral idleSecs s _ ok).1
      · exact live
  | backendStart ok => exact live.start ok
  | pause => exact live.pause
  | resume ok => exact live.resume ok
  | setDuty windowMs intervalMs ok => exact live.setDuty windowMs intervalMs ok
  | setActive on ok => exact live.setActive on ok
  | setAdvertisingEnabled on ok => exact live.of_sameScan (Radio.sameScan_setAdvertisingEnabled on ok)
  | setAdvIntervalMs ms ok => exact live.of_sameScan (Radio.sameScan_setAdvIntervalMs ms ok)
  | startAdv ok => exact live.of_sameScan (Radio.sameScan_startAdv ok)
  | scanStopped => exact fun on => by cases on
  | stopAdv => exact live
  | quiesceForOta =>
      have quiesced : Radio.ScanLive { s.radio with otaQuiesce := true } := live
      exact quiesced.pause.of_sameScan (Radio.sameScan_setAdvertisingAutoSuspend true true)
  | resumeAfterOta scanOk advOk =>
      have resumed : Radio.ScanLive { s.radio with otaQuiesce := false } := live
      exact (resumed.resume scanOk).of_sameScan
        (Radio.sameScan_setAdvertisingAutoSuspend false advOk)
  | powerOff =>
      simp only [effect, Radio.powerOff]
      split
      · exact live
      · exact fun on => by cases on

theorem scanLive_reachable {idleSecs : Nat} {s : State} (path : (system idleSecs).Reachable s) :
    s.radio.ScanLive := by
  refine path.invariant (P := fun s => s.radio.ScanLive) ?_ fun _ a live _ => scanLive_step live a
  intro on
  cases on

/-- **An idle radio comes to rest unless its flag says that it rests already.** From any reachable
state in which the task sleeps: after `IDLE_TICKS` rounds without need of the central role, in which
nothing else touches the scanner, the scan is off exactly if it was not running with
`scan_quiesced` set; and after as many without need of the peripheral role, in which nothing else
touches the suspension, advertising is suspended exactly if it was not released with
`adv_suspended` set. -/
theorem idle_radio_rests (idleSecs : Nat) (s : State) (path : (system idleSecs).Reachable s)
    (sleeps : s.pc = .delay) :
    (∀ acts t, (system idleSecs).run CentralIdle s acts = some t →
      idleTicks idleSecs ≤ acts.countP Action.isCentral →
        (t.radio.scanning = false ↔ ¬ (s.central.quiesced = true ∧ s.radio.scanning = true))) ∧
    ∀ acts t, (system idleSecs).run PeripheralIdle s acts = some t →
      idleTicks idleSecs ≤ acts.countP Action.isPeripheral →
        (t.radio.advAutoSuspend = true ↔
          ¬ (s.periph.quiesced = true ∧ s.radio.advAutoSuspend = false)) := by
  have pos := idleTicks_pos idleSecs
  have notCentral : ∀ needed needed', s.pc ≠ .central needed needed' := by simp [sleeps]
  have notPeripheral : ∀ needed, s.pc ≠ .peripheral needed := by simp [sleeps]
  constructor
  · intro acts t ran enough
    have start : ScanWindow idleSecs s 0 s :=
      ⟨fun _ _ pc => absurd pc (notCentral _ _), scanLive_reachable path, rests_start pos _ _⟩
    have window := run_count (P := ScanWindow idleSecs s) Action.isCentral
      (fun _ _ a window guard idle => scanWindow_step window a guard idle) start ran
    rw [Nat.zero_add] at window
    exact window.rests.off_iff enough
  · intro acts t ran enough
    have start : SuspendWindow idleSecs s 0 s :=
      ⟨⟨fun _ _ pc => absurd pc (notCentral _ _), fun _ pc => absurd pc (notPeripheral _)⟩,
        rests_start pos _ _⟩
    have window := run_count (P := SuspendWindow idleSecs s) Action.isPeripheral
      (fun _ _ a window guard idle => suspendWindow_step window a guard idle) start ran
    rw [Nat.zero_add] at window
    have off := window.rests.off_iff enough
    simpa using off

/-- WiFi is up, and nobody needs the radio. -/
def nobody : Observed := ⟨some false, some false, some true, false, false⟩

def idleRounds (n : Nat) : List Action :=
  (List.replicate n [.wake nobody, .central true, .peripheral true]).flatten

/-- With 4 s of grace the scan is paused and advertising suspended after two rounds. -/
theorem idle_radio_rests_fresh :
    ∃ t, (system 4).Reachable t ∧ t.radio.scanning = false ∧ t.radio.advAutoSuspend = true := by
  let s := (system 4).final [.backendStart true]
  have path : (system 4).Reachable s := (system 4).reachable_final _
  have rests := idle_radio_rests 4 s path (by decide)
  refine ⟨(system 4).final ([.backendStart true] ++ idleRounds 2), (system 4).reachable_final _, ?_, ?_⟩
  · exact (rests.1 (idleRounds 2) _ (by decide +kernel) (by decide)).mpr (by decide)
  · exact (rests.2 (idleRounds 2) _ (by decide +kernel) (by decide)).mpr (by decide)

/-- An idle device gets an upload that fails. Afterwards the scan runs and advertising is not
suspended, and two idle rounds more do not change it. -/
def failedUpload : List Action :=
  ([.backendStart true] : List Action) ++ idleRounds 2 ++
  ([.quiesceForOta, .resumeAfterOta true true] : List Action)

theorem idle_radio_runs :
    ∃ s t, (system 4).Reachable s ∧ s.pc = .delay ∧
      (system 4).run CentralIdle s (idleRounds 2) = some t ∧
      (system 4).run PeripheralIdle s (idleRounds 2) = some t ∧
      idleTicks 4 ≤ (idleRounds 2).countP Action.isCentral ∧
      idleTicks 4 ≤ (idleRounds 2).countP Action.isPeripheral ∧
      t.radio.scanning = true ∧ t.radio.advAutoSuspend = false := by
  refine ⟨(system 4).final failedUpload, (system 4).final (failedUpload ++ idleRounds 2),
    (system 4).reachable_final _, by decide +kernel, by decide +kernel, by decide +kernel, by decide,
    by decide, by decide +kernel, by decide +kernel⟩

end NimbleProxy.Backend.PowerSupervisor
