/-
# Api.Settings -- the settings of the dashboard and what a reboot leaves of them

`stats.cpp`: the handlers of POST /level, /txpower, /cpufreq, /advitvl, /wifips and
/scan, the functions `apply_*_from_nvs` that `main` runs at boot, and what the GETs
report. A setting lives in RAM and under a key of its own in NVS; a setter writes both,
a loader fills RAM from NVS, and in between the advertising interval is kept in units
of 0.625 ms.

A query is what `httpd_query_key_value` answers for a key, with the 8 bytes of `val`.
What NVS and the hardware answer is an argument (`Answers`). The build is the one that
has all six endpoints and runs all the loaders, with WiFi and BLE. The text around the
reported values, the logs and what the hardware is told are left out: nothing reads
them back. A setting that is applied to the scan after a power-off counts as applied.
-/
import NimbleProxy.Theory.KeyValue
import NimbleProxy.Backend.Radio

namespace NimbleProxy.Api.Settings

open NimbleProxy.Theory.KeyValue NimbleProxy.Backend

set_option autoImplicit false

/-! ## Queries -/

abbrev Query := String → Option String

/-- `isspace`. -/
def isSpace (c : Char) : Bool := c.toNat == 32 || (decide (9 ≤ c.toNat) && decide (c.toNat ≤ 13))

def digits (text : List Char) : Nat :=
  (text.takeWhile Char.isDigit).foldl (fun n c => 10 * n + (c.toNat - 48)) 0

/-- `atoi`, and `strtol` with base 10. -/
def atoi (text : String) : Int :=
  match text.toList.dropWhile isSpace with
  | '-' :: rest => -(digits rest : Int)
  | '+' :: rest => digits rest
  | rest => digits rest

/-! ## State -/

/-- An entry of NVS has the type with which it was written. -/
inductive NvsValue
  | i8 (value : Int8)
  | u16 (value : UInt16)
  deriving DecidableEq

abbrev Nvs := Store String NvsValue

def getI8 (nvs : Nvs) (key : String) : Option Int8 :=
  match nvs key with
  | some (.i8 value) => some value
  | _ => none

def getU16 (nvs : Nvs) (key : String) : Option UInt16 :=
  match nvs key with
  | some (.u16 value) => some value
  | _ => none

def nvsLevelKey : String := "nimble_lvl"
def nvsWifiTxKey : String := "wifi_tx"
def nvsBleTxKey : String := "ble_tx"
def nvsCpuFreqKey : String := "cpu_freq"
def nvsWifiLiKey : String := "wifi_li"
def nvsAdvItvlKey : String := "adv_itvl"

/-- `ADV_ITVL_OFF`. -/
def advItvlOff : UInt16 := 0xFFFF

structure Ram where
  /-- `g_current_nimble_level` -/
  nimbleLevel : Int := 2
  wifiTxDbm : Int8 := 20
  bleTxDbm : Int8 := 9
  wifiOff : Bool := false
  cpuFreqMhz : Int := 240
  lightSleep : Bool := false
  cpuPd : Bool := false
  wifiListenInterval : Int := 0
  radio : Radio := {}

structure Device where
  ram : Ram
  nvs : Nvs

/-- What is answered to one request. -/
structure Answers where
  nvsOpen : Bool := true
  /-- `nvs_set` and `nvs_commit` succeed for this key -/
  nvsWrite : String → Bool := fun _ => true
  wifiStop : Bool := true
  wifiTx : Bool := true
  bleTx : Bool := true
  cpuFreq : Bool := true
  scanStart : Bool := true
  advStart : Bool := true

def Answers.stores (answers : Answers) (key : String) : Bool :=
  answers.nvsOpen && answers.nvsWrite key

/-- `nvs_write_i8`, whose result the caller does not look at. -/
def Device.writeI8 (d : Device) (answers : Answers) (key : String) (value : Int8) : Device :=
  { d with nvs := d.nvs.trySet (answers.stores key) key (.i8 value) }

/-! ## The handlers

Each returns the device and the text of the error, `none` for `nullptr`. -/

def handleLevelSet (d : Device) (query : Query) (answers : Answers) : Device × Option String :=
  match query "nimble" with
  | none => (d, some "missing nimble=")
  | some val =>
      let parsed := atoi val
      if parsed < 0 ∨ 5 < parsed then (d, some "level out of range")
      else if !answers.stores nvsLevelKey then (d, some "nvs write failed")
      else
        ({ ram := { d.ram with nimbleLevel := parsed }
           nvs := d.nvs.trySet (answers.stores nvsLevelKey) nvsLevelKey
             (.i8 (Int8.ofInt parsed)) }, none)

/-- The part of `handle_txpower_set` for `wifi=`: the device, and whether something has changed or
the error. -/
def setWifiTx (d : Device) (query : Query) (answers : Answers) : Device × Except String Bool :=
  match query "wifi" with
  | none => (d, .ok false)
  | some val =>
      let dbm := atoi val
      if dbm = 0 then
        if d.ram.wifiOff then (d, .ok false)
        else if !answers.wifiStop then (d, .error "wifi stop failed")
        else ({ d with ram := { d.ram with wifiOff := true } }, .ok true)
      else if dbm < 2 ∨ 21 < dbm then (d, .error "wifi 0 or 2..21")
      else if d.ram.wifiOff then (d, .error "wifi off; reboot to re-enable")
      else if dbm ≠ d.ram.wifiTxDbm.toInt then
        if !answers.wifiTx then (d, .error "wifi tx apply failed")
        else
          let d := { d with ram := { d.ram with wifiTxDbm := Int8.ofInt dbm } }
          (d.writeI8 answers nvsWifiTxKey d.ram.wifiTxDbm, .ok true)
      else (d, .ok false)

/-- The part for `ble=`. -/
def setBleTx (d : Device) (query : Query) (answers : Answers) : Device × Except String Bool :=
  match query "ble" with
  | none => (d, .ok false)
  | some val =>
      if val = "off" then
        if d.ram.radio.poweredOff then (d, .ok false)
        else ({ d with ram := { d.ram with radio := d.ram.radio.powerOff } }, .ok true)
      else
        let dbm := atoi val
        if dbm < -12 ∨ 9 < dbm then (d, .error "ble -12..9 or off")
        else if d.ram.radio.poweredOff then (d, .error "ble off; reboot to re-enable")
        else if dbm ≠ d.ram.bleTxDbm.toInt then
          if !answers.bleTx then (d, .error "ble tx apply failed")
          else
            let d := { d with ram := { d.ram with bleTxDbm := Int8.ofInt dbm } }
            (d.writeI8 answers nvsBleTxKey d.ram.bleTxDbm, .ok true)
        else (d, .ok false)

def handleTxpowerSet (d : Device) (query : Query) (answers : Answers) : Device × Option String :=
  match setWifiTx d query answers with
  | (d, .error text) => (d, some text)
  | (d, .ok wifiChanged) =>
      match setBleTx d query answers with
      | (d, .error text) => (d, some text)
      | (d, .ok bleChanged) =>
          if wifiChanged || bleChanged then (d, none) else (d, some "no params or no change")

def handleCpufreqSet (d : Device) (query : Query) (answers : Answers) : Device × Option String :=
  let mhz := ((query "mhz").map atoi).getD d.ram.cpuFreqMhz
  if (query "mhz").isSome ∧ mhz ≠ 80 ∧ mhz ≠ 160 ∧ mhz ≠ 240 then
    (d, some "mhz must be 80, 160, or 240")
  else
    let lightSleep := ((query "ls").map fun val => decide (atoi val ≠ 0)).getD d.ram.lightSleep
    let cpuPd := ((query "pdcpu").map fun val => decide (atoi val ≠ 0)).getD d.ram.cpuPd
    -- `pdcpu` is in effect before the clock is, and stays if that fails
    let d := { d with ram := { d.ram with cpuPd } }
    if !((query "mhz").isSome || (query "ls").isSome || (query "pdcpu").isSome) then
      (d, some "missing mhz=, ls= or pdcpu=")
    else if !answers.cpuFreq then (d, some "cpu freq apply failed")
    else
      let d := { d with ram := { d.ram with lightSleep, cpuFreqMhz := mhz } }
      let d := d.writeI8 answers nvsCpuFreqKey (Int8.ofInt (mhz.tdiv 10))
      let d := d.writeI8 answers "cpu_ls" (if lightSleep then 1 else 0)
      (d.writeI8 answers "cpu_pd" (if cpuPd then 1 else 0), none)

def handleAdvitvlSet (d : Device) (query : Query) (answers : Answers) : Device × Option String :=
  match query "ms" with
  | none => (d, some "missing ms=")
  | some val =>
      let parsed := atoi val
      if parsed < -1 ∨ 10240 < parsed then (d, some "ms must be -1, 0, or 20..10240")
      else if 0 < parsed ∧ parsed < 20 then (d, some "ms must be -1, 0, or 20..10240")
      else
        let off := decide (parsed = -1)
        let ms := UInt16.ofNat parsed.toNat
        if !answers.nvsOpen then (d, some "nvs open failed")
        else if !answers.nvsWrite nvsAdvItvlKey then (d, some "nvs write failed")
        else
          ({ ram := { d.ram with
               radio :=
                 if off then d.ram.radio.setAdvertisingEnabled false answers.advStart
                 else
                   (d.ram.radio.setAdvIntervalMs ms answers.advStart).setAdvertisingEnabled true
                     answers.advStart }
             nvs := d.nvs.trySet (answers.stores nvsAdvItvlKey) nvsAdvItvlKey
               (.u16 (if off then advItvlOff else ms)) }, none)

def handleWifipsSet (d : Device) (query : Query) (answers : Answers) : Device × Option String :=
  match query "li" with
  | none => (d, some "missing li=")
  | some val =>
      let li := atoi val
      if li < 0 ∨ 10 < li then (d, some "li 0..10")
      else if li = d.ram.wifiListenInterval then (d, none)
      else if !answers.stores nvsWifiLiKey then (d, some "nvs write failed")
      else
        ({ ram := { d.ram with wifiListenInterval := li }
           nvs := d.nvs.trySet (answers.stores nvsWifiLiKey) nvsWifiLiKey
             (.i8 (Int8.ofInt li)) }, none)

/-- What `handle_scan_set` has read when it begins to store. -/
structure ScanRequest where
  /-- window and interval, if the duty cycle is to be changed -/
  duty : Option (Int × Int)
  active : Option Bool

/-- The checks of `handle_scan_set`, for the duty cycle that the scanner has. -/
def parseScan (windowMs intervalMs : UInt16) (query : Query) : Except String ScanRequest :=
  let window := ((query "window").map atoi).getD windowMs.toNat
  let interval := ((query "interval").map atoi).getD intervalMs.toNat
  let dutyChanged := (query "window").isSome || (query "interval").isSome
  let active := (query "active").map fun val => decide (atoi val ≠ 0)
  if !dutyChanged && active.isNone then .error "missing window= / interval= / active="
  else if dutyChanged ∧ (window < 20 ∨ 10000 < window) then .error "window 20..10000 ms"
  else if dutyChanged ∧ (interval < 20 ∨ 10000 < interval) then .error "interval 20..10000 ms"
  else if dutyChanged ∧ interval < window then .error "window must be <= interval"
  else .ok ⟨if dutyChanged then some (window, interval) else none, active⟩

/-- What `handle_scan_set` stores and applies for the duty cycle. -/
def applyDuty (d : Device) (duty : Int × Int) (answers : Answers) : Device :=
  let window := UInt16.ofNat duty.1.toNat
  let interval := UInt16.ofNat duty.2.toNat
  { ram := { d.ram with radio := d.ram.radio.setDuty window interval answers.scanStart }
    nvs := (d.nvs.trySet (answers.stores "scan_win") "scan_win" (.u16 window)).trySet
      (answers.stores "scan_int") "scan_int" (.u16 interval) }

/-- What it stores and applies for `active=`. -/
def applyActive (d : Device) (active : Bool) (answers : Answers) : Device :=
  { ram := { d.ram with radio := d.ram.radio.setActive active answers.scanStart }
    nvs := d.nvs.trySet (answers.stores "scan_act") "scan_act" (.i8 (if active then 1 else 0)) }

def handleScanSet (d : Device) (query : Query) (answers : Answers) : Device × Option String :=
  match parseScan d.ram.radio.windowMs d.ram.radio.intervalMs query with
  | .error text => (d, some text)
  | .ok request =>
      -- both are stored before the first is applied; neither looks at the other's part
      let d := (request.duty.map fun duty => applyDuty d duty answers).getD d
      ((request.active.map fun active => applyActive d active answers).getD d, none)

inductive Post
  | level (query : Query)
  | txpower (query : Query)
  | cpufreq (query : Query)
  | advitvl (query : Query)
  | wifips (query : Query)
  | scan (query : Query)

def handle (d : Device) (post : Post) (answers : Answers) : Device × Option String :=
  match post with
  | .level query => handleLevelSet d query answers
  | .txpower query => handleTxpowerSet d query answers
  | .cpufreq query => handleCpufreqSet d query answers
  | .advitvl query => handleAdvitvlSet d query answers
  | .wifips query => handleWifipsSet d query answers
  | .scan query => handleScanSet d query answers

/-! ## What a request does to the radio -/

section Radio

/-- A property of the radio that each of its functions keeps which a handler calls. -/
structure RadioInvariant (P : Radio → Prop) : Prop where
  setAdvertisingEnabled : ∀ r on ok, P r → P (r.setAdvertisingEnabled on ok)
  setAdvIntervalMs : ∀ r ms ok, P r → P (r.setAdvIntervalMs ms ok)
  setDuty : ∀ r windowMs intervalMs ok, P r → P (r.setDuty windowMs intervalMs ok)
  setActive : ∀ r on ok, P r → P (r.setActive on ok)
  powerOff : ∀ r, P r → P r.powerOff

variable {P : Radio → Prop} (invariant : RadioInvariant P) {d : Device} {query : Query}
  {answers : Answers}

theorem RadioInvariant.setWifiTx (start : P d.ram.radio) : P (setWifiTx d query answers).1.ram.radio := by
  unfold Settings.setWifiTx
  split
  · exact start
  dsimp only
  repeat' split
  all_goals exact start

include invariant

theorem RadioInvariant.setBleTx (start : P d.ram.radio) : P (setBleTx d query answers).1.ram.radio := by
  unfold Settings.setBleTx
  split
  · exact start
  split
  · split
    · exact start
    · exact invariant.powerOff _ start
  dsimp only
  repeat' split
  all_goals exact start

theorem RadioInvariant.txpowerSet (start : P d.ram.radio) :
    P (handleTxpowerSet d query answers).1.ram.radio := by
  have wifi : P (Settings.setWifiTx d query answers).1.ram.radio := RadioInvariant.setWifiTx start
  unfold handleTxpowerSet
  split
  · rename_i first
    rw [first] at wifi
    exact wifi
  · rename_i first
    rw [first] at wifi
    have ble : P (Settings.setBleTx _ query answers).1.ram.radio := invariant.setBleTx wifi
    split
    · rename_i second
      rw [second] at ble
      exact ble
    · rename_i second
      rw [second] at ble
      split <;> exact ble

theorem RadioInvariant.scanSet (start : P d.ram.radio) :
    P (handleScanSet d query answers).1.ram.radio := by
  unfold handleScanSet
  split
  · exact start
  · rename_i request _
    have duty : P ((request.duty.map fun duty => applyDuty d duty answers).getD d).ram.radio := by
      cases request.duty with
      | none => exact start
      | some duty => exact invariant.setDuty _ _ _ _ start
    dsimp only
    cases request.active with
    | none => exact duty
    | some active => exact invariant.setActive _ _ _ duty

theorem RadioInvariant.handle {post : Post} (start : P d.ram.radio) :
    P (handle d post answers).1.ram.radio := by
  cases post with
  | txpower query => exact invariant.txpowerSet start
  | scan query => exact invariant.scanSet start
  | level query =>
      simp only [Settings.handle, handleLevelSet]
      repeat' split
      all_goals exact start
  | cpufreq query =>
      simp only [Settings.handle, handleCpufreqSet]
      repeat' split
      all_goals exact start
  | wifips query =>
      simp only [Settings.handle, handleWifipsSet]
      repeat' split
      all_goals exact start
  | advitvl query =>
      simp only [Settings.handle, handleAdvitvlSet]
      repeat' split
      all_goals first
        | exact start
        | exact invariant.setAdvertisingEnabled _ _ _ start
        | exact invariant.setAdvertisingEnabled _ _ _ (invariant.setAdvIntervalMs _ _ _ start)

end Radio

/-! ## The loaders -/

def applyLogOverridesFromNvs (nvs : Nvs) (ram : Ram) : Ram :=
  { ram with nimbleLevel := ((getI8 nvs nvsLevelKey).map Int8.toInt).getD 2 }

def applyCpuFreqFromNvs (nvs : Nvs) (ram : Ram) : Ram :=
  let ram :=
    match getI8 nvs nvsCpuFreqKey with
    | some stored =>
        let mhz := stored.toInt * 10
        if mhz = 80 ∨ mhz = 160 ∨ mhz = 240 then { ram with cpuFreqMhz := mhz } else ram
    | none => ram
  { ram with
    lightSleep := ((getI8 nvs "cpu_ls").map fun ls => decide (ls ≠ 0)).getD ram.lightSleep
    cpuPd := ((getI8 nvs "cpu_pd").map fun pd => decide (pd ≠ 0)).getD ram.cpuPd }

def applyWifiPsFromNvs (nvs : Nvs) (ram : Ram) : Ram :=
  match getI8 nvs nvsWifiLiKey with
  | some li => if 0 ≤ li ∧ li ≤ 10 then { ram with wifiListenInterval := li.toInt } else ram
  | none => ram

def applyAdvIntervalFromNvs (nvs : Nvs) (advStart : Bool) (ram : Ram) : Ram :=
  let stored := (getU16 nvs nvsAdvItvlKey).getD 0
  { ram with
    radio :=
      if stored = advItvlOff then
        (ram.radio.setAdvIntervalMs 0 advStart).setAdvertisingEnabled false advStart
      else ram.radio.setAdvIntervalMs stored advStart }

def applyTxPowerFromNvs (nvs : Nvs) (ram : Ram) : Ram :=
  { ram with
    wifiTxDbm := (getI8 nvs nvsWifiTxKey).getD ram.wifiTxDbm
    bleTxDbm := (getI8 nvs nvsBleTxKey).getD ram.bleTxDbm }

/-- The duty cycle in NVS, if it has both parts and they are valid. -/
def storedDuty (nvs : Nvs) : Option (UInt16 × UInt16) :=
  match getU16 nvs "scan_win", getU16 nvs "scan_int" with
  | some window, some interval =>
      if 20 ≤ window ∧ window ≤ interval ∧ interval ≤ 10000 then some (window, interval) else none
  | _, _ => none

/-- The two parts of `apply_scan_from_nvs`. -/
def loadDuty (nvs : Nvs) (scanStart : Bool) (radio : Radio) : Radio :=
  match storedDuty nvs with
  | some duty => radio.setDuty duty.1 duty.2 scanStart
  | none => radio

def loadActive (nvs : Nvs) (scanStart : Bool) (radio : Radio) : Radio :=
  match getI8 nvs "scan_act" with
  | some active => radio.setActive (active ≠ 0) scanStart
  | none => radio

def applyScanFromNvs (nvs : Nvs) (scanStart : Bool) (ram : Ram) : Ram :=
  { ram with radio := loadActive nvs scanStart (loadDuty nvs scanStart ram.radio) }

/-- `app_main`, as far as it concerns the settings. -/
def boot (nvs : Nvs) (scanStart advStart : Bool) : Device :=
  let ram : Ram := applyLogOverridesFromNvs nvs {}
  let ram := applyCpuFreqFromNvs nvs ram
  let ram := applyWifiPsFromNvs nvs ram
  let ram := { ram with radio := ram.radio.start scanStart }
  let ram := applyAdvIntervalFromNvs nvs advStart ram
  let ram := applyTxPowerFromNvs nvs ram
  { ram := applyScanFromNvs nvs scanStart ram, nvs }

/-! ## The reports -/

/-- What GET /level, /txpower, /cpufreq, /advitvl, /wifips and /scan report. -/
structure Report where
  nimble : Int
  wifi : Int
  ble : Int
  bleOff : Bool
  mhz : Int
  ls : Bool
  pdcpu : Bool
  ms : Int
  li : Int
  window : UInt16
  interval : UInt16
  active : Bool
  deriving DecidableEq

/-- The `ms` of `build_advitvl_json`. -/
def advitvlMs (radio : Radio) : Int :=
  if !radio.advAllowed then -1
  else if radio.advIntervalUnits = 0 then 0
  else ((radio.advIntervalUnits.toNat * 625 + 500) / 1000 : Nat)

def report (ram : Ram) : Report where
  nimble := ram.nimbleLevel
  wifi := if ram.wifiOff then 0 else ram.wifiTxDbm.toInt
  ble := ram.bleTxDbm.toInt
  bleOff := ram.radio.poweredOff
  mhz := ram.cpuFreqMhz
  ls := ram.lightSleep
  pdcpu := ram.cpuPd
  ms := advitvlMs ram.radio
  li := ram.wifiListenInterval
  window := ram.radio.windowMs
  interval := ram.radio.intervalMs
  active := ram.radio.activeScan

end NimbleProxy.Api.Settings
