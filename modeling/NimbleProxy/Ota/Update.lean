/-
# Ota.Update -- what a failed upload leaves behind

`POST /update` frees the radio before it writes the image: the hooks that `main` has
wired drop the SoftAP, pause the scan and suspend advertising. Every exit that fails
after that calls the second hook, which is to restore them. `nat_router` remembers
whether it has dropped the SoftAP (`g_ota_resume_ap`). `ble_backend` remembers nothing:
it resumes the scan and lifts the suspension, whether or not they were there before.

What the calls of NimBLE, WiFi and the OTA partition answer is an argument (`Answers`).
DNS and DHCP of the SoftAP are left out, and so are its credentials: both hooks leave
them as they are.
-/
import NimbleProxy.Backend.Radio

namespace NimbleProxy.Ota

open NimbleProxy.Backend

set_option autoImplicit false

/-! ## The SoftAP -/

/-- What `nat_router.cpp` keeps of the SoftAP. -/
structure SoftAp where
  /-- `g_ap` is not null -/
  netif : Bool := false
  /-- the WiFi mode is `WIFI_MODE_APSTA` -/
  apsta : Bool := false
  /-- the arbiter prefers WiFi to BLE -/
  preferWifi : Bool := false
  napt : Bool := false
  /-- the port mappings of `g_portmap` are live -/
  mapped : Bool := false
  /-- `g_sta_ip` is not 0 -/
  staIp : Bool := false
  /-- `g_enabled` -/
  enabled : Bool := true
  /-- `g_ota_resume_ap` -/
  otaResumeAp : Bool := false
  /-- `NVS_ENABLED` -/
  stored : Option UInt8 := none
  deriving DecidableEq

namespace SoftAp

variable (ap : SoftAp)

/-- `ap_up`; `naptOk` is the answer of `esp_netif_napt_enable`. -/
def apUp (naptOk : Bool) : SoftAp :=
  { ap with
    netif := true
    apsta := true
    preferWifi := true
    napt := naptOk || ap.napt
    mapped := ap.staIp || ap.mapped
    enabled := true }

/-- `ap_down`. -/
def apDown : SoftAp :=
  { ap with
    napt := if ap.netif then false else ap.napt
    mapped := false
    apsta := false
    preferWifi := false
    enabled := false }

def pauseForOta : SoftAp :=
  let ap := { ap with otaResumeAp := ap.enabled }
  if ap.enabled then ap.apDown else ap

def resumeAfterOta (naptOk : Bool) : SoftAp :=
  let ap := if ap.otaResumeAp then ap.apUp naptOk else ap
  { ap with otaResumeAp := false }

/-- `load_enabled`. -/
def loadEnabled : Bool := ap.stored.getD 1 != 0

/-- `nat_router::start`. -/
def start (naptOk : Bool) : SoftAp :=
  let ap := { ap with enabled := ap.loadEnabled }
  if ap.enabled then ap.apUp naptOk else ap

/-- The `enabled` argument of `POST /nat`. -/
def natPost (want naptOk : Bool) : SoftAp :=
  if want != ap.enabled then
    let ap := if want then ap.apUp naptOk else ap.apDown
    { ap with stored := some (if want then 1 else 0) }
  else ap

/-- `on_sta_got_ip` with a new address. -/
def onStaGotIp : SoftAp :=
  if ap.enabled then { ap with staIp := true, mapped := true } else { ap with staIp := true }

end SoftAp

/-! ## The upload -/

structure Config where
  /-- `CONFIG_NBP_BLE` -/
  ble : Bool
  /-- `CONFIG_NBP_NAT_ROUTER` -/
  natRouter : Bool

structure Device where
  radio : Radio
  softAp : SoftAp

/-- What `httpd_req_recv` answers, and `esp_ota_write` to what was received. -/
inductive Recv
  | data (bytes : Nat) (written : Bool)
  | timeout
  | error

/-- What is answered to one request. The body ends after `recvs`. -/
structure Answers where
  partition : Bool
  begun : Bool
  recvs : List Recv
  ended : Bool
  bootSet : Bool
  scanOk : Bool
  advOk : Bool
  naptOk : Bool

inductive Response
  | error (status : Nat) (text : String)
  /-- the upload is complete; the device reboots -/
  | ok (total : Nat)
  deriving DecidableEq

/-- The first hook of `main`. -/
def quiesceBegin (config : Config) (d : Device) : Device :=
  { softAp := if config.natRouter then d.softAp.pauseForOta else d.softAp
    radio := if config.ble then d.radio.quiesceForOta else d.radio }

/-- The second hook of `main`. -/
def quiesceEnd (config : Config) (d : Device) (answers : Answers) : Device :=
  { radio := if config.ble then d.radio.resumeAfterOta answers.scanOk answers.advOk else d.radio
    softAp := if config.natRouter then d.softAp.resumeAfterOta answers.naptOk else d.softAp }

/-- The loop of `update_post`: the bytes written, or what has failed. -/
def receive : List Recv → Nat → Except String Nat
  | [], total => .ok total
  | .timeout :: rest, total => receive rest total
  | .error :: _, _ => .error "recv failed"
  | .data bytes written :: rest, total =>
      if written then receive rest (total + bytes) else .error "ota_write failed"

/-- `update_post` between the two hooks: the bytes written, or the response. -/
def upload (answers : Answers) : Except Response Nat :=
  if !answers.begun then .error (.error 500 "ota_begin failed")
  else
    match receive answers.recvs 0 with
    | .error text => .error (.error 500 text)
    | .ok total =>
        if !answers.ended then .error (.error 400 "ota_end failed — bad image?")
        else if !answers.bootSet then .error (.error 500 "set_boot failed")
        else .ok total

def updatePost (config : Config) (d : Device) (answers : Answers) : Device × Response :=
  if !answers.partition then (d, .error 500 "no OTA partition")
  else
    let d := quiesceBegin config d
    match upload answers with
    | .error response => (quiesceEnd config d answers, response)
    | .ok total => (d, .ok total)

/-! ## The property and the condition -/

/-- Scan, suspension, advertising and SoftAP are as before. The SoftAP has no other state than
`otaResumeAp`, which belongs to the hooks. -/
structure Restored (d d' : Device) : Prop where
  scanning : d'.radio.scanning = d.radio.scanning
  advAutoSuspend : d'.radio.advAutoSuspend = d.radio.advAutoSuspend
  advertising : d'.radio.advertising = d.radio.advertising
  softAp : { d'.softAp with otaResumeAp := false } = { d.softAp with otaResumeAp := false }

/-- The SoftAP is as `ap_up` leaves it. -/
structure SoftAp.Up (ap : SoftAp) : Prop where
  netif : ap.netif = true
  apsta : ap.apsta = true
  preferWifi : ap.preferWifi = true
  mapped : ap.mapped = ap.staIp

/-- **The condition.** Everything that is to be restored is on. -/
structure AllOn (config : Config) (d : Device) (answers : Answers) : Prop where
  scanning : config.ble = true → d.radio.scan = true → d.radio.scanning = answers.scanOk
  suspend : config.ble = true → d.radio.advAutoSuspend = false
  advertising : config.ble = true → d.radio.hostUp = true →
    d.radio.advertising = (d.radio.advEnabled && answers.advOk)
  softAp : config.natRouter = true → d.softAp.enabled = true →
    d.softAp.Up ∧ d.softAp.napt = answers.naptOk

/-! ## The hooks -/

section Hooks

variable {config : Config} {d : Device} {answers : Answers}

/-- What is left of the scan and the advertising. -/
theorem resume_quiesce (r : Radio) (scanOk advOk : Bool) :
    (r.quiesceForOta.resumeAfterOta scanOk advOk).scanning =
        (if r.scan then scanOk else r.scanning) ∧
      (r.quiesceForOta.resumeAfterOta scanOk advOk).advAutoSuspend = false ∧
      (r.quiesceForOta.resumeAfterOta scanOk advOk).advertising =
        (if r.hostUp then r.advEnabled && advOk else r.advertising) := by
  simp only [Radio.quiesceForOta, Radio.resumeAfterOta, Radio.setAdvertisingAutoSuspend,
    Radio.applyAdvState_eq, Radio.pause_eq, Radio.resume_eq, Radio.advAllowed]
  refine ⟨?_, trivial, ?_⟩
  · cases r.scan <;> simp
  · cases r.hostUp <;> simp

/-- The SoftAP comes back as `ap_up` makes it, if it was enabled. -/
theorem softAp_resume_pause (ap : SoftAp) (naptOk : Bool) :
    { ap.pauseForOta.resumeAfterOta naptOk with otaResumeAp := false } =
        { ap with otaResumeAp := false } ↔
      (ap.enabled = true → ap.Up ∧ ap.napt = naptOk) := by
  cases enabled : ap.enabled with
  | false =>
      simp [SoftAp.pauseForOta, SoftAp.resumeAfterOta, enabled]
  | true =>
      simp only [SoftAp.pauseForOta, SoftAp.resumeAfterOta, enabled, if_true, SoftAp.apDown,
        SoftAp.apUp, SoftAp.mk.injEq, and_true, Bool.or_false, forall_const]
      constructor
      · rintro ⟨netif, apsta, preferWifi, napt, mapped⟩
        refine ⟨⟨netif.symm, apsta.symm, preferWifi.symm, mapped.symm⟩, ?_⟩
        simpa [← netif] using napt.symm
      · rintro ⟨⟨netif, apsta, preferWifi, mapped⟩, napt⟩
        exact ⟨netif.symm, apsta.symm, preferWifi.symm, by simp [netif, napt], mapped.symm⟩

/-- Both hooks, one after the other. -/
theorem restored_hooks_iff :
    Restored d (quiesceEnd config (quiesceBegin config d) answers) ↔ AllOn config d answers := by
  obtain ⟨scanning, suspend, advertising⟩ := resume_quiesce d.radio answers.scanOk answers.advOk
  have radio : config.ble = true → (quiesceEnd config (quiesceBegin config d) answers).radio =
      d.radio.quiesceForOta.resumeAfterOta answers.scanOk answers.advOk := by
    intro ble
    simp only [quiesceEnd, quiesceBegin, ble, if_true]
  have ap : config.natRouter = true → (quiesceEnd config (quiesceBegin config d) answers).softAp =
      d.softAp.pauseForOta.resumeAfterOta answers.naptOk := by
    intro natRouter
    simp only [quiesceEnd, quiesceBegin, natRouter, if_true]
  constructor
  · intro restored
    refine ⟨fun ble scan => ?_, fun ble => ?_, fun ble up => ?_, fun natRouter => ?_⟩
    · rw [← restored.scanning, radio ble, scanning, if_pos scan]
    · rw [← restored.advAutoSuspend, radio ble, suspend]
    · rw [← restored.advertising, radio ble, advertising, if_pos up]
    · refine (softAp_resume_pause d.softAp answers.naptOk).mp ?_
      rw [← ap natRouter]
      exact restored.softAp
  · intro on
    have noRadio : config.ble = false → (quiesceEnd config (quiesceBegin config d) answers).radio =
        d.radio := by
      intro ble
      simp only [quiesceEnd, quiesceBegin, ble, Bool.false_eq_true, if_false]
    constructor
    · cases ble : config.ble with
      | false => rw [noRadio ble]
      | true =>
          rw [radio ble, scanning]
          split
          · rename_i scan
            exact (on.scanning ble scan).symm
          · rfl
    · cases ble : config.ble with
      | false => rw [noRadio ble]
      | true => rw [radio ble, suspend, on.suspend ble]
    · cases ble : config.ble with
      | false => rw [noRadio ble]
      | true =>
          rw [radio ble, advertising]
          split
          · rename_i up
            exact (on.advertising ble up).symm
          · rfl
    · cases natRouter : config.natRouter with
      | false => simp only [quiesceEnd, quiesceBegin, natRouter, Bool.false_eq_true, if_false]
      | true =>
          rw [ap natRouter]
          exact (softAp_resume_pause d.softAp answers.naptOk).mpr (on.softAp natRouter)

end Hooks

/-- A failure after the first hook goes through the second. -/
theorem updatePost_failed {config : Config} {d : Device} {answers : Answers} {status : Nat}
    {text : String} (partition : answers.partition = true)
    (failed : (updatePost config d answers).2 = .error status text) :
    (updatePost config d answers).1 = quiesceEnd config (quiesceBegin config d) answers := by
  simp only [updatePost, partition, Bool.not_true, Bool.false_eq_true, if_false] at failed ⊢
  split at failed
  · rfl
  · cases failed

/-- **A failed upload restores a device on which everything was on.** If `POST /update` fails after
its first hook, scan, suspension, advertising and SoftAP are as before exactly if (with restarts
that succeed) the scan was running, advertising was not suspended and ran if the user's switch is on,
and an enabled SoftAP was up. -/
theorem failed_update_restores (config : Config) (d : Device) (answers : Answers) (status : Nat)
    (text : String) (partition : answers.partition = true)
    (failed : (updatePost config d answers).2 = .error status text) :
    Restored d (updatePost config d answers).1 ↔ AllOn config d answers := by
  rw [updatePost_failed partition failed]
  exact restored_hooks_iff

/-- A device with everything on, and an image that is not one. -/
def allOnDevice : Device :=
  { radio := { started := true, hostUp := true, scan := true, scanning := true, advertising := true }
    softAp := ({ staIp := true } : SoftAp).start true }

def badImage : Answers := ⟨true, true, [.data 4096 true, .timeout, .data 17 true], false, true, true, true, true⟩

theorem failed_update_restores_all_on :
    (updatePost ⟨true, true⟩ allOnDevice badImage).2 = .error 400 "ota_end failed — bad image?" ∧
      Restored allOnDevice (updatePost ⟨true, true⟩ allOnDevice badImage).1 := by
  have failed : (updatePost ⟨true, true⟩ allOnDevice badImage).2 =
      .error 400 "ota_end failed — bad image?" := by decide
  refine ⟨failed, (failed_update_restores ⟨true, true⟩ allOnDevice badImage _ _ rfl failed).mpr ?_⟩
  exact ⟨fun _ _ => rfl, fun _ => rfl, fun _ _ => rfl, fun _ _ => ⟨⟨rfl, rfl, rfl, rfl⟩, rfl⟩⟩

/-- The power supervisor has paused the scan and suspended advertising. -/
def idleDevice : Device :=
  { radio := { started := true, hostUp := true, scan := true, advAutoSuspend := true }
    softAp := { enabled := false, stored := some 0 } }

/-- After the upload has failed, the scan runs and the suspension is gone. -/
theorem failed_update_wakes :
    ¬ ∀ config d answers status text, answers.partition = true →
      (updatePost config d answers).2 = .error status text →
        Restored d (updatePost config d answers).1 := by
  intro always
  have restored := always ⟨true, true⟩ idleDevice badImage 400 "ota_end failed — bad image?" rfl
    (by decide)
  have scan := restored.scanning
  revert scan
  decide

/-! ## The SoftAP outside uploads

Once `nat_router` has started, an enabled SoftAP is up, whatever happens to it. So the SoftAP's
part of the condition is about NAPT alone (`softAp_restored_iff`). -/

namespace SoftAp

variable {ap : SoftAp}

structure Consistent (ap : SoftAp) : Prop where
  up : ap.enabled = true → ap.Up
  mapped : ap.mapped = true → ap.staIp = true

theorem consistent_apUp (naptOk : Bool) (mapped : ap.mapped = true → ap.staIp = true) :
    (ap.apUp naptOk).Consistent := by
  have both : (ap.staIp || ap.mapped) = ap.staIp := by
    cases live : ap.mapped with
    | false => exact Bool.or_false _
    | true => rw [mapped live, Bool.true_or]
  constructor
  · intro _
    exact ⟨rfl, rfl, rfl, both⟩
  · intro live
    exact both.symm.trans live

theorem consistent_apDown : ap.apDown.Consistent where
  up enabled := by cases enabled
  mapped live := by cases live

theorem consistent_start (naptOk : Bool) (mapped : ap.mapped = true → ap.staIp = true) :
    (ap.start naptOk).Consistent := by
  unfold start
  dsimp only
  split
  · have up : ({ ap with enabled := ap.loadEnabled }.apUp naptOk).Consistent :=
      consistent_apUp naptOk mapped
    exact up
  · rename_i disabled
    exact ⟨fun enabled => absurd enabled disabled, mapped⟩

theorem Consistent.natPost (consistent : ap.Consistent) (want naptOk : Bool) :
    (ap.natPost want naptOk).Consistent := by
  have next : (if want then ap.apUp naptOk else ap.apDown).Consistent := by
    split
    · exact consistent_apUp naptOk consistent.mapped
    · exact consistent_apDown
  unfold SoftAp.natPost
  split
  · exact ⟨fun enabled => ⟨(next.up enabled).netif, (next.up enabled).apsta,
      (next.up enabled).preferWifi, (next.up enabled).mapped⟩, next.mapped⟩
  · exact consistent

theorem Consistent.onStaGotIp (consistent : ap.Consistent) : ap.onStaGotIp.Consistent := by
  unfold SoftAp.onStaGotIp
  split
  · rename_i enabled
    obtain ⟨netif, apsta, preferWifi, -⟩ := consistent.up enabled
    exact ⟨fun _ => ⟨netif, apsta, preferWifi, rfl⟩, fun _ => rfl⟩
  · rename_i disabled
    exact ⟨fun enabled => absurd enabled disabled, fun _ => rfl⟩

theorem Consistent.pauseForOta (consistent : ap.Consistent) : ap.pauseForOta.Consistent := by
  unfold SoftAp.pauseForOta
  dsimp only
  split
  · exact consistent_apDown
  · rename_i disabled
    exact ⟨fun enabled => absurd enabled disabled, consistent.mapped⟩

theorem Consistent.resumeAfterOta (consistent : ap.Consistent) (naptOk : Bool) :
    (ap.resumeAfterOta naptOk).Consistent := by
  unfold SoftAp.resumeAfterOta
  dsimp only
  split
  · have up := consistent_apUp naptOk consistent.mapped
    exact ⟨fun enabled => ⟨(up.up enabled).netif, (up.up enabled).apsta, (up.up enabled).preferWifi,
      (up.up enabled).mapped⟩, up.mapped⟩
  · exact ⟨fun enabled => ⟨(consistent.up enabled).netif, (consistent.up enabled).apsta,
      (consistent.up enabled).preferWifi, (consistent.up enabled).mapped⟩, consistent.mapped⟩

/-- What happens to the SoftAP. -/
inductive Action
  | natPost (want naptOk : Bool)
  | staGotIp
  | pauseForOta
  | resumeAfterOta (naptOk : Bool)

def step (ap : SoftAp) : Action → SoftAp
  | .natPost want naptOk => ap.natPost want naptOk
  | .staGotIp => ap.onStaGotIp
  | .pauseForOta => ap.pauseForOta
  | .resumeAfterOta naptOk => ap.resumeAfterOta naptOk

def run (ap : SoftAp) (actions : List Action) : SoftAp := actions.foldl step ap

theorem Consistent.step (consistent : ap.Consistent) (a : Action) : (ap.step a).Consistent := by
  cases a with
  | natPost want naptOk => exact consistent.natPost want naptOk
  | staGotIp => exact consistent.onStaGotIp
  | pauseForOta => exact consistent.pauseForOta
  | resumeAfterOta naptOk => exact consistent.resumeAfterOta naptOk

theorem Consistent.run (consistent : ap.Consistent) (actions : List Action) :
    (ap.run actions).Consistent := by
  induction actions generalizing ap with
  | nil => exact consistent
  | cons a rest ih => exact ih (consistent.step a)

/-- **In every run since the start** the hooks bring the SoftAP back as it was exactly if it is off,
or NAPT comes back as it was. -/
theorem softAp_restored_iff (stored : Option UInt8) (staIp startOk naptOk : Bool)
    (actions : List Action) :
    let ap := (({ staIp, stored } : SoftAp).start startOk).run actions
    { ap.pauseForOta.resumeAfterOta naptOk with otaResumeAp := false } =
        { ap with otaResumeAp := false } ↔ (ap.enabled = true → ap.napt = naptOk) := by
  intro ap
  have booted : (({ staIp, stored } : SoftAp).start startOk).Consistent :=
    consistent_start startOk Bool.noConfusion
  have consistent : ap.Consistent := booted.run actions
  rw [softAp_resume_pause]
  constructor
  · intro on enabled
    exact (on enabled).2
  · intro napt enabled
    exact ⟨consistent.up enabled, napt enabled⟩

end SoftAp

end NimbleProxy.Ota
