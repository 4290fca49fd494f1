/-
# Backend.AdvertisingGate -- nothing advertises past the two switches

Advertising is started from seven places: `apply_adv_state` and `set_adv_interval_ms`
in the backend, the two server callbacks and `activate` in `ble_httpd`, and the two
server callbacks and `start_advertising` in the clone's mirror. Each asks
`adv_allowed` (the user's switch and the auto-suspend gate) first, and the two setters
of the switches stop what has become disallowed.

Each function is one action. Which of the two sets of server callbacks NimBLE calls
depends on who has set them last; here both may run at any time after the server
exists. The controller may end the advertising by itself (`stopped`), as it does when a
central connects.
-/
import NimbleProxy.Theory.ActionSystem
import NimbleProxy.Backend.Radio

namespace NimbleProxy.Backend.AdvertisingGate

open NimbleProxy.Theory ActionSystem

set_option autoImplicit false

/-! ## The system -/

structure State where
  radio : Radio := {}
  /-- `ble_httpd`'s `g_server` is not null -/
  httpdServer : Bool := false
  /-- `ble_httpd`'s `g_activated` -/
  activated : Bool := false
  /-- the mirror's `g_built` -/
  built : Bool := false
  /-- the mirror's `g_adv` is not null -/
  adv : Bool := false
  /-- the mirror's `g_advertising` -/
  cloneAdvertising : Bool := false

/-- `ble_httpd`'s `ServerCb::onConnect` and `ServerCb::onDisconnect`. -/
def httpdServerCb (s : State) (ok : Bool) : State :=
  if s.radio.hostUp && s.radio.advAllowed then { s with radio := s.radio.startAdv ok } else s

/-- The mirror's `ServerCb::onConnect` and `ServerCb::onDisconnect`. -/
def mirrorServerCb (s : State) (ok : Bool) : State :=
  if s.adv && s.radio.advAllowed && !s.radio.advertising then
    { s with radio := s.radio.startAdv ok }
  else s

/-- `ble_httpd::activate`; `serverOk` is the answer of `NimBLEServer::start`. -/
def activate (s : State) (serverOk scanOk advOk : Bool) : State :=
  if s.activated then s
  else if !s.httpdServer then { s with activated := true }
  else
    let radio := s.radio.pause.resume scanOk
    if !serverOk then { s with activated := true, radio }
    else if radio.advAllowed then { s with activated := true, radio := radio.startAdv advOk }
    else { s with activated := true, radio }

/-- `mirror::start_advertising`. Whether `reset` ends a running advertisement is NimBLE's
business (`resetStops`). -/
def startAdvertising (s : State) (resetStops ok : Bool) : State :=
  if !s.built then s
  else
    let radio := if resetStops then s.radio.stopAdv else s.radio
    if !radio.advAllowed then { s with adv := true, radio }
    else
      { s with
        adv := true
        radio := radio.startAdv ok
        cloneAdvertising := if ok then true else s.cloneAdvertising }

/-- `mirror::stop_advertising`. -/
def stopAdvertising (s : State) : State :=
  if !s.adv then s else { s with radio := s.radio.stopAdv, cloneAdvertising := false }

inductive Action
  | backendStart (ok : Bool)
  | httpdStart
  /-- the end of `finalize_server` -/
  | finalized
  | setAdvertisingEnabled (on ok : Bool)
  | setAdvertisingAutoSuspend (suspend ok : Bool)
  | setAdvIntervalMs (ms : UInt16) (ok : Bool)
  | httpdServerCb (ok : Bool)
  | mirrorServerCb (ok : Bool)
  | activate (serverOk scanOk advOk : Bool)
  | startAdvertising (resetStops ok : Bool)
  | stopAdvertising
  | quiesceForOta
  | resumeAfterOta (scanOk advOk : Bool)
  | stopped

/-- The server and the mirror exist only once the host is up. -/
def Guard (s : State) : Action → Prop
  | .httpdStart | .finalized => s.radio.hostUp = true
  | _ => True

instance (s : State) : (a : Action) → Decidable (Guard s a)
  | .httpdStart | .finalized => inferInstanceAs (Decidable (_ = _))
  | .backendStart _ | .setAdvertisingEnabled .. | .setAdvertisingAutoSuspend ..
  | .setAdvIntervalMs .. | .httpdServerCb _ | .mirrorServerCb _ | .activate .. | .startAdvertising ..
  | .stopAdvertising | .quiesceForOta | .resumeAfterOta .. | .stopped =>
      inferInstanceAs (Decidable True)

def effect (s : State) : Action → State
  | .backendStart ok => { s with radio := s.radio.start ok }
  | .httpdStart => { s with httpdServer := true }
  | .finalized => { s with built := true, adv := true }
  | .setAdvertisingEnabled on ok => { s with radio := s.radio.setAdvertisingEnabled on ok }
  | .setAdvertisingAutoSuspend suspend ok =>
      { s with radio := s.radio.setAdvertisingAutoSuspend suspend ok }
  | .setAdvIntervalMs ms ok => { s with radio := s.radio.setAdvIntervalMs ms ok }
  | .httpdServerCb ok => httpdServerCb s ok
  | .mirrorServerCb ok => mirrorServerCb s ok
  | .activate serverOk scanOk advOk => activate s serverOk scanOk advOk
  | .startAdvertising resetStops ok => startAdvertising s resetStops ok
  | .stopAdvertising => stopAdvertising s
  | .quiesceForOta => { s with radio := s.radio.quiesceForOta }
  | .resumeAfterOta scanOk advOk => { s with radio := s.radio.resumeAfterOta scanOk advOk }
  | .stopped => { s with radio := s.radio.stopAdv }

def system : ActionSystem State Action where
  init := {}
  Guard := Guard
  guardDecidable := inferInstance
  effect := effect

/-! ## The gate in the backend -/

/-- The radio advertises only with the host up, and only while both switches allow it. -/
structure Gated (r : Radio) : Prop where
  hostUp : r.advertising = true → r.hostUp = true
  allowed : r.advertising = true → r.advAllowed = true

section Radio

variable {r : Radio}

/-- A start that has asked the gate. -/
theorem Gated.startAdv (gated : Gated r) (hostUp : r.hostUp = true) (allowed : r.advAllowed = true)
    (ok : Bool) : Gated (r.startAdv ok) := by
  unfold Radio.startAdv
  split
  · exact ⟨fun _ => hostUp, fun _ => allowed⟩
  · exact gated

theorem gated_stopAdv : Gated r.stopAdv where
  hostUp on := by cases on
  allowed on := by cases on

/-- The radio need not be gated before: the flags have just changed. -/
theorem gated_applyAdvState (hostUp : r.advertising = true → r.hostUp = true)
    (wasAllowed ok : Bool) : Gated (r.applyAdvState r.advAllowed wasAllowed ok) := by
  rw [Radio.applyAdvState_eq]
  cases up : r.hostUp with
  | true =>
      refine ⟨fun _ => rfl, ?_⟩
      simp only [if_true, Bool.and_eq_true, Radio.advAllowed]
      exact fun on => on.1
  | false =>
      have off : r.advertising = true → False := by
        intro on
        rw [hostUp on] at up
        cases up
      exact ⟨fun on => (off on).elim, fun on => (off on).elim⟩

theorem Gated.setAdvertisingEnabled (gated : Gated r) (on ok : Bool) :
    Gated (r.setAdvertisingEnabled on ok) :=
  gated_applyAdvState (r := { r with advEnabled := on }) gated.hostUp _ _

theorem Gated.setAdvertisingAutoSuspend (gated : Gated r) (suspend ok : Bool) :
    Gated (r.setAdvertisingAutoSuspend suspend ok) :=
  gated_applyAdvState (r := { r with advAutoSuspend := suspend }) gated.hostUp _ _

theorem Gated.setAdvIntervalMs (gated : Gated r) (ms : UInt16) (ok : Bool) :
    Gated (r.setAdvIntervalMs ms ok) := by
  have next : Gated { r with advIntervalUnits := Radio.advUnits ms } := ⟨gated.hostUp, gated.allowed⟩
  unfold Radio.setAdvIntervalMs
  dsimp only
  split
  · exact next
  split
  · rename_i on
    split
    · rename_i allowed
      refine Gated.startAdv gated_stopAdv ?_ allowed ok
      exact gated.hostUp on
    · exact gated_stopAdv
  · exact next

/-- The scan has nothing to do with it. -/
theorem Gated.pause (gated : Gated r) : Gated r.pause := by
  rw [Radio.pause_eq]
  exact ⟨gated.hostUp, gated.allowed⟩

theorem Gated.resume (gated : Gated r) (ok : Bool) : Gated (r.resume ok) := by
  rw [Radio.resume_eq]
  exact ⟨gated.hostUp, gated.allowed⟩

theorem Gated.start (gated : Gated r) (ok : Bool) : Gated (r.start ok) := by
  unfold Radio.start Radio.startScan
  split
  · exact gated
  · split <;> exact ⟨fun _ => rfl, gated.allowed⟩

theorem Gated.quiesceForOta (gated : Gated r) : Gated r.quiesceForOta :=
  have quiesced : Gated { r with otaQuiesce := true } := ⟨gated.hostUp, gated.allowed⟩
  quiesced.pause.setAdvertisingAutoSuspend true true

theorem Gated.resumeAfterOta (gated : Gated r) (scanOk advOk : Bool) :
    Gated (r.resumeAfterOta scanOk advOk) :=
  have resumed : Gated { r with otaQuiesce := false } := ⟨gated.hostUp, gated.allowed⟩
  (resumed.resume scanOk).setAdvertisingAutoSuspend false advOk

end Radio

/-! ## The system keeps the gate -/

/-- What has a server or an advertising object has a host. -/
structure Inv (s : State) : Prop where
  gated : Gated s.radio
  hostUp : (s.httpdServer || s.built || s.adv) = true → s.radio.hostUp = true

section Steps

variable {s : State}

/-- A step that turns nothing but the radio. -/
theorem Inv.of_radio (inv : Inv s) {radio : Radio} (gated : Gated radio)
    (up : radio.hostUp = s.radio.hostUp) : Inv { s with radio } :=
  ⟨gated, fun some => up.trans (inv.hostUp some)⟩

theorem inv_activate (inv : Inv s) (serverOk scanOk advOk : Bool) :
    Inv (activate s serverOk scanOk advOk) := by
  unfold activate
  split
  · exact inv
  split
  · exact ⟨inv.gated, inv.hostUp⟩
  rename_i server
  rw [Bool.not_eq_true', Bool.not_eq_false] at server
  have up : s.radio.hostUp = true := inv.hostUp (by simp [server])
  have gated : Gated (s.radio.pause.resume scanOk) := inv.gated.pause.resume scanOk
  have upAfter : (s.radio.pause.resume scanOk).hostUp = true := by simpa using up
  dsimp only
  split
  · exact ⟨gated, fun _ => upAfter⟩
  split
  · rename_i allowed
    exact ⟨gated.startAdv upAfter allowed advOk, fun _ => by simpa using up⟩
  · exact ⟨gated, fun _ => upAfter⟩

theorem inv_startAdvertising (inv : Inv s) (resetStops ok : Bool) :
    Inv (startAdvertising s resetStops ok) := by
  unfold startAdvertising
  split
  · exact inv
  rename_i built
  rw [Bool.not_eq_true', Bool.not_eq_false] at built
  have up : s.radio.hostUp = true := inv.hostUp (by simp [built])
  have gated : Gated (if resetStops then s.radio.stopAdv else s.radio) := by
    split
    · exact gated_stopAdv
    · exact inv.gated
  have upAfter : (if resetStops then s.radio.stopAdv else s.radio).hostUp = true := by
    split <;> simpa using up
  dsimp only
  generalize (if resetStops then s.radio.stopAdv else s.radio) = radio at gated upAfter ⊢
  split
  · exact ⟨gated, fun _ => upAfter⟩
  · rename_i allowed
    rw [Bool.not_eq_true', Bool.not_eq_false] at allowed
    exact ⟨gated.startAdv upAfter allowed ok, fun _ => by rw [Radio.hostUp_startAdv]; exact upAfter⟩

theorem inv_step (inv : Inv s) (a : Action) (guard : Guard s a) : Inv (effect s a) := by
  cases a with
  | backendStart ok =>
      refine ⟨inv.gated.start ok, fun some => ?_⟩
      have up := inv.hostUp some
      simp only [effect, Radio.start, Radio.startScan]
      split
      · exact up
      · split <;> rfl
  | httpdStart | finalized => exact ⟨inv.gated, fun _ => guard⟩
  | setAdvertisingEnabled on ok => exact inv.of_radio (inv.gated.setAdvertisingEnabled on ok) (by simp)
  | setAdvertisingAutoSuspend suspend ok =>
      exact inv.of_radio (inv.gated.setAdvertisingAutoSuspend suspend ok) (by simp)
  | setAdvIntervalMs ms ok => exact inv.of_radio (inv.gated.setAdvIntervalMs ms ok) (by simp)
  | httpdServerCb ok =>
      simp only [effect, httpdServerCb]
      split
      · rename_i asked
        rw [Bool.and_eq_true] at asked
        exact inv.of_radio (inv.gated.startAdv asked.1 asked.2 ok) (by simp)
      · exact inv
  | mirrorServerCb ok =>
      simp only [effect, mirrorServerCb]
      split
      · rename_i asked
        simp only [Bool.and_eq_true] at asked
        have up : s.radio.hostUp = true := inv.hostUp (by simp [asked.1.1])
        exact inv.of_radio (inv.gated.startAdv up asked.1.2 ok) (by simp)
      · exact inv
  | activate serverOk scanOk advOk => exact inv_activate inv serverOk scanOk advOk
  | startAdvertising resetStops ok => exact inv_startAdvertising inv resetStops ok
  | stopAdvertising =>
      simp only [effect, stopAdvertising]
      split
      · exact inv
      · exact ⟨gated_stopAdv, inv.hostUp⟩
  | quiesceForOta => exact inv.of_radio inv.gated.quiesceForOta (by simp)
  | resumeAfterOta scanOk advOk =>
      exact inv.of_radio (inv.gated.resumeAfterOta scanOk advOk) (by simp)
  | stopped => exact inv.of_radio gated_stopAdv rfl

end Steps

theorem inv_reachable {s : State} (path : system.Reachable s) : Inv s := by
  refine path.invariant (P := Inv) ?_ fun s a inv guard => inv_step inv a guard
  exact ⟨⟨(fun on => by cases on), (fun on => by cases on)⟩, (fun some => by cases some)⟩

/-- **The advertising gate.** In every reachable state the radio advertises only if the user's
switch is on and advertising is not auto-suspended, and a step from a state in which it may
advertise to one in which it may not leaves it silent. -/
theorem advertising_gated (s : State) (path : system.Reachable s) :
    (s.radio.advertising = true → s.radio.advEnabled = true ∧ s.radio.advAutoSuspend = false) ∧
      ∀ a, Guard s a → s.radio.advAllowed = true → (effect s a).radio.advAllowed = false →
        (effect s a).radio.advertising = false := by
  constructor
  · intro on
    simpa [Radio.advAllowed] using (inv_reachable path).gated.allowed on
  · intro a guard _ disallowed
    have after := inv_step (inv_reachable path) a guard
    rw [Bool.eq_false_iff]
    intro on
    rw [after.gated.allowed on] at disallowed
    cases disallowed

/-- A device that advertises is switched off by its user. -/
theorem advertising_gated_off :
    ∃ s, system.Reachable s ∧ s.radio.advertising = true ∧ s.radio.advEnabled = true ∧
      (effect s (.setAdvertisingEnabled false true)).radio.advertising = false := by
  let s := system.final [.backendStart true, .httpdStart, .activate true true true]
  have path : system.Reachable s := system.reachable_final _
  have on : s.radio.advertising = true := by decide
  exact ⟨s, path, on, ((advertising_gated s path).1 on).1,
    (advertising_gated s path).2 (.setAdvertisingEnabled false true) trivial (by decide) (by decide)⟩

end NimbleProxy.Backend.AdvertisingGate
