/-
# Backend.Radio -- the switches of ble_backend

What `ble_backend.cpp` and `scanner.cpp` keep about the radio, and the functions that
turn it: the advertising switch of the user, the gate of the power supervisor, the
intervals, the scan, and the OTA hooks.

A call of NimBLE that starts something may fail; its outcome is an argument. A `stop`
stops. As the source says, `NimBLEDevice::getAdvertising()` is null until
`ble_backend::start` has initialised the host (`hostUp`). The parameters that are handed
to the NimBLE objects are left out: nothing reads them back.
-/
import Mathlib.Logic.Basic

namespace NimbleProxy.Backend

set_option autoImplicit false

structure Radio where
  /-- `g_started` -/
  started : Bool := false
  /-- `NimBLEDevice::getAdvertising()` is not null -/
  hostUp : Bool := false
  /-- `g_scan` is not null -/
  scan : Bool := false
  /-- `g_scan->isScanning()` -/
  scanning : Bool := false
  /-- `proxy::SCAN_WINDOW_MS` and `proxy::SCAN_INTERVAL_MS` -/
  windowMs : UInt16 := 30
  intervalMs : UInt16 := 60
  activeScan : Bool := true
  advIntervalUnits : UInt16 := 0
  /-- `g_adv_enabled` -/
  advEnabled : Bool := true
  /-- `g_adv_auto_suspend` -/
  advAutoSuspend : Bool := false
  /-- the advertising object's `isAdvertising()` -/
  advertising : Bool := false
  /-- `g_ota_quiesce` -/
  otaQuiesce : Bool := false
  /-- `g_powered_off` -/
  poweredOff : Bool := false
  deriving DecidableEq

namespace Radio

variable (r : Radio)

/-! ## Advertising -/

/-- `adv_allowed`, which is also `advertising_enabled`. -/
def advAllowed : Bool := r.advEnabled && !r.advAutoSuspend

/-- `adv->start()`. -/
def startAdv (ok : Bool) : Radio := if ok then { r with advertising := true } else r

/-- `adv->stop()`. -/
def stopAdv : Radio := { r with advertising := false }

/-- `apply_adv_state`. -/
def applyAdvState (nowAllowed wasAllowed ok : Bool) : Radio :=
  if !r.hostUp then r
  else if !nowAllowed then if r.advertising then r.stopAdv else r
  else if !wasAllowed then if !r.advertising then r.startAdv ok else r
  else r

def setAdvertisingEnabled (on ok : Bool) : Radio :=
  let next := { r with advEnabled := on }
  next.applyAdvState next.advAllowed r.advAllowed ok

def setAdvertisingAutoSuspend (suspend ok : Bool) : Radio :=
  let next := { r with advAutoSuspend := suspend }
  next.applyAdvState next.advAllowed r.advAllowed ok

/-- The clamp and the conversion to units of 0.625 ms in `set_adv_interval_ms`. -/
def advUnits (ms : UInt16) : UInt16 :=
  if ms ≠ 0 then
    let ms := if ms < 20 then 20 else ms
    let ms := if 10240 < ms then 10240 else ms
    UInt16.ofNat (ms.toNat * 1000 / 625)
  else 0

def setAdvIntervalMs (ms : UInt16) (ok : Bool) : Radio :=
  let next := { r with advIntervalUnits := advUnits ms }
  if !next.hostUp then next
  else if next.advertising then
    let stopped := next.stopAdv
    if stopped.advAllowed then stopped.startAdv ok else stopped
  else next

/-! ## The scan -/

/-- `g_scan->start(0, true)`. -/
def startScan (ok : Bool) : Radio := if ok then { r with scanning := true } else r

/-- `scanner::resume`. -/
def resume (ok : Bool) : Radio :=
  if !r.scan then r else if r.scanning then r else r.startScan ok

/-- `scanner::pause`. -/
def pause : Radio :=
  if !r.scan then r else if !r.scanning then r else { r with scanning := false }

/-- The restart at the end of `set_duty` and `set_active`. -/
def restartScan (ok : Bool) : Radio :=
  if r.scanning then { r with scanning := false }.startScan ok else r

def setDuty (windowMs intervalMs : UInt16) (ok : Bool) : Radio :=
  if !r.scan then r else { r with windowMs, intervalMs }.restartScan ok

def setActive (on ok : Bool) : Radio :=
  if !r.scan then r else { r with activeScan := on }.restartScan ok

/-! ## Start and OTA -/

/-- `ble_backend::start`. -/
def start (ok : Bool) : Radio :=
  if r.started then r else { r with started := true, hostUp := true, scan := true }.startScan ok

def quiesceForOta : Radio :=
  { r with otaQuiesce := true }.pause.setAdvertisingAutoSuspend true true

def resumeAfterOta (scanOk advOk : Bool) : Radio :=
  ({ r with otaQuiesce := false }.resume scanOk).setAdvertisingAutoSuspend false advOk

/-- `power_off`: the host is gone, and with it what ran on it. `g_scan` keeps its pointer. -/
def powerOff : Radio :=
  if r.poweredOff then r
  else { r with poweredOff := true, hostUp := false, scanning := false, advertising := false }

/-! ## What the calls touch -/

variable {r}

/-- `pause` touches nothing but the scan. -/
theorem pause_eq : r.pause = { r with scanning := r.scanning && !r.scan } := by
  unfold pause
  cases scan : r.scan <;> cases scanning : r.scanning <;> cases r <;> simp_all

theorem resume_eq (ok : Bool) :
    r.resume ok = { r with scanning := r.scanning || r.scan && ok } := by
  unfold resume startScan
  cases scan : r.scan <;> cases scanning : r.scanning <;> cases ok <;> cases r <;> simp_all

/-- `apply_adv_state` touches nothing but the advertising. -/
theorem applyAdvState_eq (nowAllowed wasAllowed ok : Bool) :
    r.applyAdvState nowAllowed wasAllowed ok =
      { r with advertising :=
          if r.hostUp then nowAllowed && (r.advertising || !wasAllowed && ok) else r.advertising } := by
  unfold applyAdvState stopAdv startAdv
  cases up : r.hostUp <;> cases nowAllowed <;> cases wasAllowed <;> cases on : r.advertising <;>
    cases ok <;> cases r <;> simp_all

theorem setAdvertisingEnabled_eq (on ok : Bool) : ∃ advertising,
    r.setAdvertisingEnabled on ok = { r with advEnabled := on, advertising } := by
  rw [setAdvertisingEnabled, applyAdvState_eq]
  exact ⟨_, rfl⟩

theorem setAdvIntervalMs_eq (ms : UInt16) (ok : Bool) : ∃ advertising,
    r.setAdvIntervalMs ms ok = { r with advIntervalUnits := advUnits ms, advertising } := by
  unfold setAdvIntervalMs startAdv stopAdv
  dsimp only
  repeat' split
  all_goals exact ⟨_, rfl⟩

theorem restartScan_eq (ok : Bool) : ∃ scanning, r.restartScan ok = { r with scanning } := by
  unfold restartScan startScan
  repeat' split
  all_goals exact ⟨_, rfl⟩

/-- With a scan object a setting arrives. -/
theorem setDuty_eq (scan : r.scan = true) (windowMs intervalMs : UInt16) (ok : Bool) : ∃ scanning,
    r.setDuty windowMs intervalMs ok = { r with windowMs, intervalMs, scanning } := by
  rw [setDuty, scan]
  exact restartScan_eq ok

theorem setActive_eq (scan : r.scan = true) (on ok : Bool) : ∃ scanning,
    r.setActive on ok = { r with activeScan := on, scanning } := by
  rw [setActive, scan]
  exact restartScan_eq ok

section HostUp

@[simp] theorem hostUp_startAdv (ok : Bool) : (r.startAdv ok).hostUp = r.hostUp := by
  unfold startAdv
  split <;> rfl

@[simp] theorem hostUp_stopAdv : r.stopAdv.hostUp = r.hostUp := rfl

@[simp] theorem hostUp_setAdvertisingEnabled (on ok : Bool) :
    (r.setAdvertisingEnabled on ok).hostUp = r.hostUp := by
  rw [setAdvertisingEnabled, applyAdvState_eq]

@[simp] theorem hostUp_setAdvertisingAutoSuspend (suspend ok : Bool) :
    (r.setAdvertisingAutoSuspend suspend ok).hostUp = r.hostUp := by
  rw [setAdvertisingAutoSuspend, applyAdvState_eq]

@[simp] theorem hostUp_setAdvIntervalMs (ms : UInt16) (ok : Bool) :
    (r.setAdvIntervalMs ms ok).hostUp = r.hostUp := by
  obtain ⟨_, done⟩ := setAdvIntervalMs_eq (r := r) ms ok
  rw [done]

@[simp] theorem hostUp_pause : r.pause.hostUp = r.hostUp := by rw [pause_eq]

@[simp] theorem hostUp_resume (ok : Bool) : (r.resume ok).hostUp = r.hostUp := by rw [resume_eq]

@[simp] theorem hostUp_quiesceForOta : r.quiesceForOta.hostUp = r.hostUp := by
  simp [quiesceForOta]

@[simp] theorem hostUp_resumeAfterOta (scanOk advOk : Bool) :
    (r.resumeAfterOta scanOk advOk).hostUp = r.hostUp := by
  simp [resumeAfterOta]

end HostUp

section PoweredOff

@[simp] theorem poweredOff_setAdvertisingEnabled (on ok : Bool) :
    (r.setAdvertisingEnabled on ok).poweredOff = r.poweredOff := by
  rw [setAdvertisingEnabled, applyAdvState_eq]

@[simp] theorem poweredOff_setAdvIntervalMs (ms : UInt16) (ok : Bool) :
    (r.setAdvIntervalMs ms ok).poweredOff = r.poweredOff := by
  obtain ⟨_, done⟩ := setAdvIntervalMs_eq (r := r) ms ok
  rw [done]

theorem poweredOff_restartScan (ok : Bool) : (r.restartScan ok).poweredOff = r.poweredOff := by
  obtain ⟨_, done⟩ := restartScan_eq (r := r) ok
  rw [done]

@[simp] theorem poweredOff_setDuty (windowMs intervalMs : UInt16) (ok : Bool) :
    (r.setDuty windowMs intervalMs ok).poweredOff = r.poweredOff := by
  unfold setDuty
  split
  · rfl
  · exact poweredOff_restartScan ok

@[simp] theorem poweredOff_setActive (on ok : Bool) :
    (r.setActive on ok).poweredOff = r.poweredOff := by
  unfold setActive
  split
  · rfl
  · exact poweredOff_restartScan ok

end PoweredOff

/-! The advertising calls leave the scan alone, and the others the suspension. -/

section Frames

/-- The scan is as before. -/
def SameScan (r r' : Radio) : Prop := r'.scanning = r.scanning ∧ r'.scan = r.scan

theorem sameScan_startAdv (ok : Bool) : SameScan r (r.startAdv ok) := by
  unfold startAdv
  split <;> exact ⟨rfl, rfl⟩

theorem sameScan_setAdvertisingEnabled (on ok : Bool) :
    SameScan r (r.setAdvertisingEnabled on ok) := by
  rw [setAdvertisingEnabled, applyAdvState_eq]
  exact ⟨rfl, rfl⟩

theorem sameScan_setAdvertisingAutoSuspend (suspend ok : Bool) :
    SameScan r (r.setAdvertisingAutoSuspend suspend ok) := by
  rw [setAdvertisingAutoSuspend, applyAdvState_eq]
  exact ⟨rfl, rfl⟩

theorem sameScan_setAdvIntervalMs (ms : UInt16) (ok : Bool) :
    SameScan r (r.setAdvIntervalMs ms ok) := by
  obtain ⟨_, done⟩ := setAdvIntervalMs_eq (r := r) ms ok
  rw [done]
  exact ⟨rfl, rfl⟩

@[simp] theorem advAutoSuspend_setAdvertisingAutoSuspend (suspend ok : Bool) :
    (r.setAdvertisingAutoSuspend suspend ok).advAutoSuspend = suspend := by
  rw [setAdvertisingAutoSuspend, applyAdvState_eq]

@[simp] theorem advAutoSuspend_setAdvertisingEnabled (on ok : Bool) :
    (r.setAdvertisingEnabled on ok).advAutoSuspend = r.advAutoSuspend := by
  rw [setAdvertisingEnabled, applyAdvState_eq]

@[simp] theorem advAutoSuspend_startAdv (ok : Bool) :
    (r.startAdv ok).advAutoSuspend = r.advAutoSuspend := by
  unfold startAdv
  split <;> rfl

@[simp] theorem advAutoSuspend_setAdvIntervalMs (ms : UInt16) (ok : Bool) :
    (r.setAdvIntervalMs ms ok).advAutoSuspend = r.advAutoSuspend := by
  obtain ⟨_, done⟩ := setAdvIntervalMs_eq (r := r) ms ok
  rw [done]

@[simp] theorem advAutoSuspend_startScan (ok : Bool) :
    (r.startScan ok).advAutoSuspend = r.advAutoSuspend := by
  unfold startScan
  split <;> rfl

@[simp] theorem advAutoSuspend_restartScan (ok : Bool) :
    (r.restartScan ok).advAutoSuspend = r.advAutoSuspend := by
  obtain ⟨_, done⟩ := restartScan_eq (r := r) ok
  rw [done]

@[simp] theorem advAutoSuspend_setDuty (windowMs intervalMs : UInt16) (ok : Bool) :
    (r.setDuty windowMs intervalMs ok).advAutoSuspend = r.advAutoSuspend := by
  unfold setDuty
  split <;> simp

@[simp] theorem advAutoSuspend_setActive (on ok : Bool) :
    (r.setActive on ok).advAutoSuspend = r.advAutoSuspend := by
  unfold setActive
  split <;> simp

@[simp] theorem advAutoSuspend_pause : r.pause.advAutoSuspend = r.advAutoSuspend := by
  rw [pause_eq]

@[simp] theorem advAutoSuspend_resume (ok : Bool) :
    (r.resume ok).advAutoSuspend = r.advAutoSuspend := by
  rw [resume_eq]

@[simp] theorem advAutoSuspend_start (ok : Bool) :
    (r.start ok).advAutoSuspend = r.advAutoSuspend := by
  unfold start
  split <;> simp

/-- The scan runs on a scan object. -/
def ScanLive (r : Radio) : Prop := r.scanning = true → r.scan = true

theorem ScanLive.of_sameScan {r' : Radio} (live : ScanLive r) (same : SameScan r r') :
    ScanLive r' := by
  unfold ScanLive
  rw [same.1, same.2]
  exact live

theorem ScanLive.pause (live : ScanLive r) : ScanLive r.pause := by
  rw [pause_eq]
  intro on
  exact live (by simp at on; exact on.1)

theorem ScanLive.resume (live : ScanLive r) (ok : Bool) : ScanLive (r.resume ok) := by
  rw [resume_eq]
  intro on
  rw [Bool.or_eq_true, Bool.and_eq_true] at on
  exact on.elim live And.left

theorem scanLive_startScan (ok : Bool) (live : ScanLive r) (scan : r.scan = true) :
    ScanLive (r.startScan ok) := by
  unfold startScan
  split
  · exact fun _ => scan
  · exact live

theorem ScanLive.restartScan (live : ScanLive r) (ok : Bool) : ScanLive (r.restartScan ok) := by
  unfold Radio.restartScan
  split
  · rename_i on
    exact scanLive_startScan ok (fun off => by cases off) (live on)
  · exact live

theorem ScanLive.setDuty (live : ScanLive r) (windowMs intervalMs : UInt16) (ok : Bool) :
    ScanLive (r.setDuty windowMs intervalMs ok) := by
  unfold Radio.setDuty
  split
  · exact live
  · exact ScanLive.restartScan (r := { r with windowMs, intervalMs }) live ok

theorem ScanLive.setActive (live : ScanLive r) (on ok : Bool) : ScanLive (r.setActive on ok) := by
  unfold Radio.setActive
  split
  · exact live
  · exact ScanLive.restartScan (r := { r with activeScan := on }) live ok

theorem ScanLive.start (live : ScanLive r) (ok : Bool) : ScanLive (r.start ok) := by
  unfold Radio.start
  split
  · exact live
  · exact scanLive_startScan ok (fun _ => rfl) rfl

end Frames

end Radio

end NimbleProxy.Backend
