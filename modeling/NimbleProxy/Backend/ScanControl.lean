/-
# Backend.ScanControl -- who stops and who starts the scan

The scan has one switch and many hands on it: `connection::connect` and the three
`ClientCb` callbacks, the clone supervisor, `set_duty` and `set_active`, the power
supervisor, `POST /trace` and the two OTA hooks. None of them knows why another
one has stopped it. The system here is the product of `Connection.system` (whose
`scanning` is `g_scan->isScanning()`) and `Upstream.system` with the remaining
callers of `scanner.cpp`.

`pause` and `resume` look at `isScanning` and then act; what they leave behind is
the same as if both happened at the moment of the `stop` or the `start`, so each
is one action. `set_duty` and `set_active` are three, because another task may act
between their `stop` and their `start`; the calls under way differ in nothing the
model keeps, so they are counted. A `start` that fails is one whose scan is
suspended at once.

`traceHeld` and `otaHeld` are bookkeeping: the scan was paused by trace on, or by
`quiesce_for_ota`, and the matching resume has not been requested. The header
promises that the callbacks do not resume a paused scan, but `resume` asks nobody.
The scan stays paused exactly as long as no caller of `resume` is on its way:
`Spared` says when that is, and `paused_scan_stays_paused` that it is enough and
that every step it leaves out can be continued to a scan under a hold.
-/
import NimbleProxy.Backend.Connection
import NimbleProxy.Clone.Upstream

namespace NimbleProxy.Backend.ScanControl

open NimbleProxy.Theory NimbleProxy.Clone ActionSystem

set_option autoImplicit false

/-! ## State -/

structure Config where
  /-- `CONFIG_NBP_BLE_HTTPD`: `finalize_server` goes through `ble_httpd::activate` -/
  bleHttpd : Bool
  /-- `IDLE_TICKS` -/
  idleTicks : Nat

inductive ScanCall
  | pause | resume
  deriving DecidableEq

/-- Where `power::supervisor_task` is. -/
inductive PowerPc
  /-- in `vTaskDelay` -/
  | delay
  /-- past the look at `ota_quiesced` -/
  | awake
  | resume
  | pause
  deriving DecidableEq

structure Power where
  pc : PowerPc := .delay
  centralIdle : Nat := 0
  scanQuiesced : Bool := false

/-- Where the OTA task is inside `quiesce_for_ota` or `resume_after_ota`. -/
inductive OtaPc
  | idle | pause | resume
  deriving DecidableEq

structure State where
  backend : Connection.State := {}
  clone : Upstream.State := {}
  /-- scanner calls the clone supervisor makes before its next step -/
  cloneCalls : List ScanCall := []
  /-- `ble_httpd`'s `g_activated` -/
  activated : Bool := false
  /-- calls of `set_duty` or `set_active` between `isScanning` and `stop` -/
  toStop : Nat := 0
  /-- calls of `set_duty` or `set_active` between `stop` and `start` -/
  toStart : Nat := 0
  power : Power := {}
  ota : OtaPc := .idle
  otaQuiesce : Bool := false
  traceHeld : Bool := false
  otaHeld : Bool := false

namespace State

def scanning (s : State) : Bool := s.backend.scanning

def setScanning (s : State) (on : Bool) : State :=
  { s with backend := { s.backend with scanning := on } }

/-- What `scanner::pause` and `scanner::resume` leave behind. -/
def scan (s : State) : ScanCall → State
  | .pause => s.setScanning false
  | .resume => s.setScanning true

/-- A pause of the scan is on whose resume has not been requested. -/
def Held (s : State) : Prop := s.traceHeld = true ∨ s.otaHeld = true

instance (s : State) : Decidable s.Held := inferInstanceAs (Decidable (_ ∨ _))

end State

/-! ## The callers -/

/-- The scanner calls that follow the step the clone supervisor is about to make. -/
def scanCalls (config : Config) (s : State) (outcome : Bool) : List ScanCall :=
  match s.clone.pc with
  | .session (.loadConnectOk _) _ => if s.clone.connectOk then [.resume] else []
  | .session .drainDisconnectSem _ => [.pause]
  | .session .awaitDisconnect _ => if outcome then [] else [.resume]
  | .session .finalizeServer _ =>
      if config.bleHttpd then if s.activated then [] else [.pause, .resume]
      else if outcome then [] else [.resume]
  | _ => []

/-- With `ble_httpd` compiled in, `finalize_server` does not fail after `build_from`. -/
def finalizeFails (config : Config) (s : State) (outcome : Bool) : Bool :=
  match s.clone.pc with
  | .session .finalizeServer _ => config.bleHttpd && !outcome
  | _ => false

def finalizing (s : State) : Bool :=
  match s.clone.pc with
  | .session .finalizeServer _ => true
  | _ => false

def cloneStep (config : Config) (s : State) (a : Upstream.Action) : State :=
  match a with
  | .supervisor outcome _ =>
      { s with
        clone := Upstream.effect s.clone a
        cloneCalls := scanCalls config s outcome
        activated := s.activated || (config.bleHttpd && finalizing s) }
  | _ => { s with clone := Upstream.effect s.clone a }

/-- `central_needed`. -/
def centralNeeded (s : State) (api : Bool) : Bool :=
  api || decide (s.backend.slots.freeSlots < maxConnections) || s.clone.target.enabled

/-- One round of `power::supervisor_task`, up to its scanner call. -/
def evaluate (config : Config) (s : State) (api : Bool) : Power :=
  if centralNeeded s api then
    { s.power with centralIdle := 0, pc := if s.power.scanQuiesced then .resume else .delay }
  else if s.power.scanQuiesced then { s.power with pc := .delay }
  else
    { s.power with
      centralIdle := s.power.centralIdle + 1
      pc := if config.idleTicks ≤ s.power.centralIdle + 1 then .pause else .delay }

/-! ## The system -/

inductive Action
  | backend (a : Connection.Action)
  | clone (a : Upstream.Action)
  /-- the clone supervisor's next scanner call -/
  | cloneScan (call : ScanCall) (rest : List ScanCall)
  /-- NimBLE suspends the scan for a connect procedure -/
  | suspended
  /-- `if (g_scan->isScanning())` of `set_duty` and `set_active` -/
  | settingCheck
  | settingStop
  | settingStart
  | traceOn
  | traceOff
  /-- `quiesce_for_ota`: the flag, then the pause -/
  | otaStore
  | otaPause
  /-- `resume_after_ota`: the flag, then the resume -/
  | otaClear
  | otaResume
  /-- the power supervisor wakes up -/
  | tick
  | evaluate (api : Bool)
  | powerResume
  | powerPause

def Guard (config : Config) (s : State) : Action → Prop
  | .backend a => Connection.Guard s.backend a
  | .clone (.supervisor outcome mtu) =>
      Upstream.Guard s.clone (.supervisor outcome mtu) ∧ s.cloneCalls = [] ∧
        finalizeFails config s outcome = false
  | .clone a => Upstream.Guard s.clone a ∧ (a.onHostTask = true → s.backend.host = .idle)
  | .cloneScan call rest => s.cloneCalls = call :: rest
  | .suspended | .settingCheck | .traceOn | .traceOff => True
  | .settingStop => 0 < s.toStop
  | .settingStart => 0 < s.toStart
  | .otaStore | .otaClear => s.ota = .idle
  | .otaPause => s.ota = .pause
  | .otaResume => s.ota = .resume
  | .tick => s.power.pc = .delay
  | .evaluate _ => s.power.pc = .awake
  | .powerResume => s.power.pc = .resume
  | .powerPause => s.power.pc = .pause

instance (config : Config) (s : State) : (a : Action) → Decidable (Guard config s a)
  | .backend a => inferInstanceAs (Decidable (Connection.Guard s.backend a))
  | .clone (.supervisor ..) => inferInstanceAs (Decidable (_ ∧ _ ∧ _))
  | .clone (.configure _) | .clone .established | .clone .attemptFailed | .clone (.linkLost _)
  | .clone (.onConnect _) | .clone (.onConnectFail _) | .clone (.onDisconnect _) =>
      inferInstanceAs (Decidable (_ ∧ (_ → _)))
  | .cloneScan .. => inferInstanceAs (Decidable (_ = _))
  | .suspended | .settingCheck | .traceOn | .traceOff => inferInstanceAs (Decidable True)
  | .settingStop | .settingStart => inferInstanceAs (Decidable (_ < _))
  | .otaStore | .otaClear | .otaPause | .otaResume | .tick | .evaluate _ | .powerResume
  | .powerPause => inferInstanceAs (Decidable (_ = _))

def effect (config : Config) (s : State) : Action → State
  | .backend a => { s with backend := Connection.effect s.backend a }
  | .clone a => cloneStep config s a
  | .cloneScan call rest => { s.scan call with cloneCalls := rest }
  | .suspended => s.setScanning false
  | .settingCheck => if s.scanning then { s with toStop := s.toStop + 1 } else s
  | .settingStop =>
      { s.setScanning false with toStop := s.toStop - 1, toStart := s.toStart + 1 }
  | .settingStart => { s.setScanning true with toStart := s.toStart - 1 }
  | .traceOn => { s.scan .pause with traceHeld := true }
  | .traceOff => { s.scan .resume with traceHeld := false }
  | .otaStore => { s with otaQuiesce := true, ota := .pause }
  | .otaPause => { s.scan .pause with otaHeld := true, ota := .idle }
  | .otaClear => { s with otaQuiesce := false, otaHeld := false, ota := .resume }
  | .otaResume => { s.scan .resume with ota := .idle }
  | .tick =>
      { s with power := { s.power with pc := if s.otaQuiesce then .delay else .awake } }
  | .evaluate api => { s with power := evaluate config s api }
  | .powerResume =>
      { s.scan .resume with power := { s.power with pc := .delay, scanQuiesced := false } }
  | .powerPause =>
      { s.scan .pause with power := { s.power with pc := .delay, scanQuiesced := true } }

def system (config : Config) : ActionSystem State Action where
  init := {}
  Guard := Guard config
  guardDecidable := inferInstance
  effect := effect config

/-! ## The condition -/

/-- No caller of `resume`, and no half-done `set_duty` or `set_active`, is on its way. Every
callback of the host task that is not over ends in a `resume`. -/
def Calm (s : State) : Prop :=
  s.backend.host = .idle ∧ ScanCall.resume ∉ s.cloneCalls ∧ s.power.pc ≠ .resume ∧
    s.toStop = 0 ∧ s.toStart = 0

instance (s : State) : Decidable (Calm s) := inferInstanceAs (Decidable (_ ∧ _ ∧ _ ∧ _ ∧ _))

/-- The step sets out on a path that starts the scan: a callback of a proxy connection that has
a slot (`onConnect` and `onConnectFail` do not even ask for one), a step of the clone
session that is followed by a `resume`, a setting applied to a running scan, or a round
of the power supervisor that finds the scan it had stopped needed again. -/
def setsOut (config : Config) (s : State) : Action → Bool
  | .backend (.onConnect _ _ _ _) | .backend (.onConnectFail _ _ _) => true
  | .backend (.onDisconnect c _ _) => (s.backend.slots.findByClientLocked c).isSome
  | .clone (.supervisor outcome _) => decide (ScanCall.resume ∈ scanCalls config s outcome)
  | .settingCheck => s.scanning
  | .evaluate api => centralNeeded s api && s.power.scanQuiesced
  | _ => false

def takesHold : Action → Bool
  | .traceOn | .otaPause => true
  | _ => false

/-- **The condition.** While a hold is on nobody sets out to start the scan, and whoever
takes a hold takes it when nobody is on the way. -/
def Spared (config : Config) (s : State) (a : Action) : Prop :=
  (s.Held → setsOut config s a = false) ∧ (takesHold a = true → Calm s)

instance (config : Config) (s : State) (a : Action) : Decidable (Spared config s a) :=
  inferInstanceAs (Decidable ((_ → _) ∧ (_ → _)))

/-- The resumes of trace off and of `resume_after_ota`. -/
def requested : Action → Bool
  | .traceOff | .otaResume => true
  | _ => false

/-- Under a hold no step but a requested resume makes the radio scan again. -/
def StaysPaused (config : Config) (s : State) : Prop :=
  ∀ a, Guard config s a → requested a = false → s.Held → s.scanning = false →
    (effect config s a).scanning = false

section Steps

variable {config : Config} {s : State} {a : Action}

/-- In `connection.cpp` only the end of a callback starts the scan. -/
theorem scanning_connection {s : Connection.State} {a : Connection.Action}
    (other : a ≠ .hostResume) :
    (Connection.effect s a).scanning = s.scanning ∨ (Connection.effect s a).scanning = false := by
  cases a with
  | connectLocked t address addressType =>
      left
      simp only [Connection.effect, Connection.connectLocked]
      repeat' split
      all_goals rfl
  | connectIssue t f issued =>
      left
      simp only [Connection.effect, Connection.connectIssue]
      split <;> rfl
  | disconnectLocked t address =>
      left
      simp only [Connection.effect, Connection.disconnectLocked]
      repeat' split
      all_goals rfl
  | onConnect c k lost mtu =>
      left
      simp only [Connection.effect, Connection.onConnect]
      repeat' split
      all_goals rfl
  | onConnectFail c k reason =>
      left
      simp only [Connection.effect, Connection.onConnectFail]
      split <;> rfl
  | onDisconnect c k reason =>
      left
      simp only [Connection.effect, Connection.onDisconnect]
      split <;> rfl
  | connectStopScan t f => exact .inr rfl
  | hostResume => exact absurd rfl other
  | _ => exact .inl rfl

/-- Only the callbacks leave the idle host task. -/
theorem host_connection {s : Connection.State} {a : Connection.Action} (guard : Connection.Guard s a)
    (idle : s.host = .idle) (slotless : ∀ c k reason, a = .onDisconnect c k reason →
      s.slots.findByClientLocked c = none)
    (noConnect : ∀ c k lost mtu, a ≠ .onConnect c k lost mtu)
    (noFail : ∀ c k reason, a ≠ .onConnectFail c k reason) :
    (Connection.effect s a).host = .idle := by
  cases a with
  | connectLocked t address addressType =>
      simp only [Connection.effect, Connection.connectLocked]
      repeat' split
      all_goals exact idle
  | connectIssue t f issued =>
      simp only [Connection.effect, Connection.connectIssue]
      split <;> exact idle
  | disconnectLocked t address =>
      simp only [Connection.effect, Connection.disconnectLocked]
      repeat' split
      all_goals exact idle
  | onConnect c k lost mtu => exact absurd rfl (noConnect c k lost mtu)
  | onConnectFail c k reason => exact absurd rfl (noFail c k reason)
  | onDisconnect c k reason =>
      simp only [Connection.effect, Connection.onDisconnect, slotless c k reason rfl]
      exact idle
  | hostCallback cb address r => exact absurd (idle.symm.trans guard) (by simp)
  | hostNotify => exact absurd (idle.symm.trans guard) (by simp)
  | hostResume => exact absurd (idle.symm.trans guard) (by simp)
  | _ => exact idle

/-! ## Enough -/

/-- While nobody is on the way, no step starts the scan but a requested resume. -/
theorem staysPaused_of_calm (calm : Calm s) : StaysPaused config s := by
  intro a guard notRequested held off
  obtain ⟨idle, noCall, notPower, noStop, noStart⟩ := calm
  cases a with
  | backend b =>
      have other : b ≠ .hostResume := by
        rintro rfl
        exact absurd (idle.symm.trans guard) (by simp)
      rcases scanning_connection other with same | stopped
      · exact same.trans off
      · exact stopped
  | clone b =>
      cases b <;> exact off
  | cloneScan call rest =>
      cases call with
      | pause => rfl
      | resume =>
          have pending : s.cloneCalls = .resume :: rest := guard
          exact absurd (pending ▸ List.mem_cons_self) noCall
  | settingCheck =>
      simp only [effect, off]
      exact off
  | settingStart => exact absurd noStart (Nat.ne_of_gt guard)
  | traceOff | otaResume => cases notRequested
  | powerResume => exact absurd guard notPower
  | suspended | settingStop | traceOn | otaPause | powerPause => rfl
  | otaStore | otaClear | tick | evaluate api => exact off

/-- What is calm stays calm unless somebody sets out. -/
theorem calm_step (guard : Guard config s a) (calm : Calm s) (stays : setsOut config s a = false) :
    Calm (effect config s a) := by
  obtain ⟨idle, noCall, notPower, noStop, noStart⟩ := calm
  cases a with
  | backend b =>
      refine ⟨host_connection guard idle ?_ ?_ ?_, noCall, notPower, noStop, noStart⟩
      · rintro c k reason rfl
        simpa [setsOut] using stays
      · rintro c k lost mtu rfl
        cases stays
      · rintro c k reason rfl
        cases stays
  | clone b =>
      cases b with
      | supervisor outcome mtu =>
          exact ⟨idle, of_decide_eq_false stays, notPower, noStop, noStart⟩
      | _ => exact ⟨idle, noCall, notPower, noStop, noStart⟩
  | cloneScan call rest =>
      have pending : s.cloneCalls = call :: rest := guard
      have noRest : ScanCall.resume ∉ rest := by
        intro mem
        exact noCall (pending ▸ List.mem_cons_of_mem call mem)
      cases call <;> exact ⟨idle, noRest, notPower, noStop, noStart⟩
  | settingCheck =>
      have off : s.scanning = false := stays
      simp only [effect, off]
      exact ⟨idle, noCall, notPower, noStop, noStart⟩
  | settingStop => exact absurd noStop (Nat.ne_of_gt guard)
  | settingStart => exact absurd noStart (Nat.ne_of_gt guard)
  | tick =>
      refine ⟨idle, noCall, ?_, noStop, noStart⟩
      simp only [effect]
      split <;> simp
  | evaluate api =>
      refine ⟨idle, noCall, ?_, noStop, noStart⟩
      simp only [effect, evaluate]
      by_cases needed : centralNeeded s api = true
      · have running : s.power.scanQuiesced = false := by
          simpa [setsOut, needed] using stays
        simp [needed, running]
      · simp only [needed]
        repeat' split
        all_goals simp_all
  | powerResume | powerPause => exact ⟨idle, noCall, by simp [effect], noStop, noStart⟩
  | suspended | traceOn | traceOff | otaStore | otaPause | otaClear | otaResume =>
      exact ⟨idle, noCall, notPower, noStop, noStart⟩

/-- A hold is taken by trace on and by the pause of `quiesce_for_ota` only. -/
theorem held_step (held : (effect config s a).Held) : s.Held ∨ takesHold a = true := by
  cases a with
  | traceOn | otaPause => exact .inr rfl
  | traceOff =>
      rcases held with off | ota
      · cases off
      · exact .inl (.inr ota)
  | otaClear =>
      rcases held with trace | off
      · exact .inl (.inl trace)
      · cases off
  | clone b => cases b <;> exact .inl held
  | cloneScan call rest => cases call <;> exact .inl held
  | settingCheck =>
      simp only [effect] at held
      split at held <;> exact .inl held
  | _ => exact .inl held

theorem not_setsOut_of_takesHold (takes : takesHold a = true) : setsOut config s a = false := by
  cases a with
  | traceOn | otaPause => rfl
  | _ => cases takes

theorem calm_reachable (path : (system config).ReachableWhen (Spared config) s) (held : s.Held) :
    Calm s := by
  suffices inv : s.Held → Calm s from inv held
  refine ReachableFrom.invariant (P := fun s => s.Held → Calm s) ?_ path ?_
  · intro s a before guard spared held
    by_cases already : s.Held
    · exact calm_step guard (before already) (spared.1 already)
    · have takes := (held_step held).resolve_left already
      exact calm_step guard (spared.2 takes) (not_setsOut_of_takesHold takes)
  · rintro (off | off) <;> cases off

/-! ## Needed -/

/-- A start of the scan that is due under a hold breaks it, at the latest after NimBLE has
suspended the scan once more. -/
theorem broken_of_due (held : s.Held) (guard : Guard config (s.setScanning false) a)
    (notRequested : requested a = false)
    (starts : (effect config (s.setScanning false) a).scanning = true) :
    ∃ t, (system config).ReachableFrom always s t ∧ ¬ StaysPaused config t := by
  refine ⟨s.setScanning false, .step Action.suspended .refl trivial trivial, ?_⟩
  intro stays
  have off := stays a guard notRequested held rfl
  rw [starts] at off
  cases off

/-- The clone supervisor gets to the `resume` among its calls. -/
theorem broken_of_cloneCalls (calls : List ScanCall) :
    ∀ {s : State}, s.cloneCalls = calls → s.Held → ScanCall.resume ∈ calls →
      ∃ t, (system config).ReachableFrom always s t ∧ ¬ StaysPaused config t := by
  induction calls with
  | nil =>
      intro s pending held mem
      cases mem
  | cons call rest ih =>
      intro s pending held mem
      cases call with
      | resume =>
          exact broken_of_due (a := .cloneScan .resume rest) held pending rfl rfl
      | pause =>
          have later : ScanCall.resume ∈ rest := by simpa using mem
          obtain ⟨t, path, broken⟩ :=
            ih (s := effect config s (.cloneScan .pause rest)) rfl held later
          exact ⟨t, .head (.cloneScan .pause rest) pending trivial path, broken⟩

/-- A callback of the host task gets to its `resume`. -/
theorem broken_of_host (held : s.Held) (busy : s.backend.host ≠ .idle) :
    ∃ t, (system config).ReachableFrom always s t ∧ ¬ StaysPaused config t := by
  have atResume : ∀ {s : State}, s.Held → s.backend.host = .resume →
      ∃ t, (system config).ReachableFrom always s t ∧ ¬ StaysPaused config t := by
    intro s held due
    exact broken_of_due (a := .backend .hostResume) held due rfl rfl
  have atNotify : ∀ {s : State}, s.Held → s.backend.host = .notify →
      ∃ t, (system config).ReachableFrom always s t ∧ ¬ StaysPaused config t := by
    intro s held due
    obtain ⟨t, path, broken⟩ :=
      atResume (s := effect config s (.backend .hostNotify)) held rfl
    exact ⟨t, .head (.backend .hostNotify) due trivial path, broken⟩
  cases due : s.backend.host with
  | idle => exact absurd due busy
  | callback cb address r =>
      obtain ⟨t, path, broken⟩ :=
        atNotify (s := effect config s (.backend (.hostCallback cb address r))) held rfl
      exact ⟨t, .head (.backend (.hostCallback cb address r)) due trivial path, broken⟩
  | notify => exact atNotify held due
  | resume => exact atResume held due

theorem broken_of_not_calm (held : s.Held) (stirred : ¬ Calm s) :
    ∃ t, (system config).ReachableFrom always s t ∧ ¬ StaysPaused config t := by
  by_cases idle : s.backend.host = .idle
  swap
  · exact broken_of_host held idle
  by_cases noCall : ScanCall.resume ∉ s.cloneCalls
  swap
  · exact broken_of_cloneCalls s.cloneCalls rfl held (not_not.mp noCall)
  by_cases notPower : s.power.pc ≠ .resume
  swap
  · exact broken_of_due (a := .powerResume) held (not_not.mp notPower) rfl rfl
  by_cases noStart : s.toStart = 0
  swap
  · exact broken_of_due (a := .settingStart) held (Nat.pos_of_ne_zero noStart)
      rfl rfl
  have toStop : s.toStop ≠ 0 := fun noStop => stirred ⟨idle, noCall, notPower, noStop, noStart⟩
  have next : ∃ t, (system config).ReachableFrom always (effect config s .settingStop) t ∧
      ¬ StaysPaused config t :=
    broken_of_due (a := .settingStart) held (Nat.succ_pos s.toStart) rfl rfl
  obtain ⟨t, path, broken⟩ := next
  exact ⟨t, .head Action.settingStop (Nat.pos_of_ne_zero toStop) trivial path, broken⟩

/-- A hold taken while somebody is on the way. -/
theorem broken_of_takesHold (takes : takesHold a = true) (stirred : ¬ Calm s) :
    ∃ t, (system config).ReachableFrom always (effect config s a) t ∧ ¬ StaysPaused config t := by
  cases a with
  | traceOn => exact broken_of_not_calm (.inl rfl) stirred
  | otaPause => exact broken_of_not_calm (.inr rfl) stirred
  | _ => cases takes

/-- Whoever sets out is on the way. -/
theorem not_calm_of_setsOut (sets : setsOut config s a = true) : ¬ Calm (effect config s a) := by
  rintro ⟨idle, noCall, notPower, noStop, noStart⟩
  cases a with
  | backend b =>
      cases b with
      | onConnect c k lost mtu =>
          simp only [effect, Connection.effect, Connection.onConnect] at idle
          repeat' split at idle
          all_goals cases idle
      | onConnectFail c k reason =>
          simp only [effect, Connection.effect, Connection.onConnectFail] at idle
          split at idle <;> cases idle
      | onDisconnect c k reason =>
          simp only [effect, Connection.effect, Connection.onDisconnect] at idle
          split at idle
          · cases idle
          · rename_i noSlot
            simp [setsOut, noSlot] at sets
      | _ => cases sets
  | clone b =>
      cases b with
      | supervisor outcome mtu => exact noCall (of_decide_eq_true sets)
      | _ => cases sets
  | settingCheck =>
      have on : s.scanning = true := sets
      simp [effect, on] at noStop
  | evaluate api =>
      have both : centralNeeded s api = true ∧ s.power.scanQuiesced = true := by
        simpa [setsOut] using sets
      exact notPower (by simp [effect, evaluate, both.1, both.2])
  | _ => cases sets

/-- Setting out does not end a hold. -/
theorem held_of_setsOut (sets : setsOut config s a = true) (held : s.Held) :
    (effect config s a).Held := by
  cases a with
  | clone b => cases b <;> exact held
  | settingCheck =>
      simp only [effect]
      split <;> exact held
  | traceOff | otaClear => cases sets
  | traceOn => exact .inl rfl
  | otaPause => exact .inr rfl
  | cloneScan call rest => cases call <;> exact held
  | _ => exact held

end Steps

/-- **A paused scan stays paused as long as nobody is on the way to resume it.** In a run whose
every step is spared, no state under a hold has a step that makes the radio scan again
but a requested resume; and each step that is not spared can be continued to such a state. -/
theorem paused_scan_stays_paused (config : Config) :
    (∀ s, (system config).ReachableWhen (Spared config) s → StaysPaused config s) ∧
      ∀ s a, Guard config s a → ¬ Spared config s a →
        ∃ t, (system config).ReachableFrom always (effect config s a) t ∧
          ¬ StaysPaused config t := by
  constructor
  · intro s path a guard notRequested held off
    exact staysPaused_of_calm (calm_reachable path held) a guard notRequested held off
  · intro s a guard notSpared
    by_cases quiet : s.Held → setsOut config s a = false
    · have takes : takesHold a = true ∧ ¬ Calm s := by
        by_contra calm
        exact notSpared ⟨quiet, fun takes => by_contra fun stirred => calm ⟨takes, stirred⟩⟩
      exact broken_of_takesHold takes.1 takes.2
    · obtain ⟨held, sets⟩ : s.Held ∧ setsOut config s a = true := by simpa using quiet
      exact broken_of_not_calm (held_of_setsOut sets held) (not_calm_of_setsOut sets)

def smallConfig : Config := ⟨false, 1⟩

/-- A task connects to a device; NimBLE has not answered yet. -/
def attemptSchedule : List Action :=
  let f : Connection.Frame := ⟨0, 7, 0, slotNo 0, 0⟩
  [.backend (.connectLocked 0 7 0), .backend (.connectNotify 0 f), .backend (.connectStopScan 0 f),
   .backend (.connectIssue 0 f true)]

/-- NimBLE answers with a link and the callback runs to its end. -/
def answerSchedule : List Action :=
  [.backend (.established 0 0), .backend (.onConnect 0 0 false 23),
   .backend (.hostCallback (some 0) 7 ⟨true, 23, 0⟩), .backend .hostNotify, .backend .hostResume]

/-- The trace is turned on while the link is up; a setting is changed and the power
supervisor makes a round. -/
def heldSchedule : List Action :=
  attemptSchedule ++ answerSchedule ++
  ([.traceOn, .settingCheck, .tick, .evaluate true] : List Action)

theorem paused_scan_stays_paused_link :
    (∃ s, (system smallConfig).ReachableWhen (Spared smallConfig) s ∧ s.Held ∧
      s.scanning = false ∧ s.backend.links 0 = .up 0 true false ∧ StaysPaused smallConfig s) ∧
    ∃ s t, (system smallConfig).ReachableFrom always (effect smallConfig s .traceOn) t ∧
      ¬ StaysPaused smallConfig t := by
  refine ⟨⟨_, (system smallConfig).reachable_finalFrom (Spared smallConfig) _ heldSchedule,
    by decide +kernel, by decide +kernel, by decide +kernel,
    (paused_scan_stays_paused smallConfig).1 _ ((system smallConfig).reachable_finalFrom _ _ _)⟩,
    (system smallConfig).final (attemptSchedule ++ answerSchedule.dropLast), ?_⟩
  exact (paused_scan_stays_paused smallConfig).2 _ .traceOn trivial (by decide +kernel)

/-- The trace is turned on while the device has not answered. -/
def resumedSchedule : List Action :=
  attemptSchedule ++ ([.traceOn] : List Action) ++ answerSchedule.dropLast

theorem resumed_under_trace :
    ∃ s, (system smallConfig).Reachable s ∧ s.Held ∧ ¬ StaysPaused smallConfig s := by
  refine ⟨_, (system smallConfig).reachable_final resumedSchedule, by decide +kernel, ?_⟩
  intro stays
  have off := stays (.backend .hostResume) (by decide +kernel) rfl (by decide +kernel)
    (by decide +kernel)
  cases off

end NimbleProxy.Backend.ScanControl
