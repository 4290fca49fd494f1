/-
# Api.Reboot -- the settings survive a reboot

Setter, loader and report of one setting are three functions with a key, a width and a
scaling of their own. They agree if at any moment every report shows what it would show
after a reboot (`Saved`): the device is as good as its NVS. A handler changes the report
of its own endpoint and the keys of that endpoint, which no other loader reads, so that
each handler has to be looked at for its own part only.

What is not in NVS is in RAM only: that WiFi or BLE is off. After a reboot the report
shows the power that was configured last.
-/
import NimbleProxy.Api.Settings

namespace NimbleProxy.Api.Settings

open NimbleProxy.Theory.KeyValue NimbleProxy.Backend

set_option autoImplicit false

/-! ## The parts of a report -/

inductive Endpoint
  | level | txpower | cpufreq | advitvl | wifips | scan
  deriving DecidableEq

def Endpoint.keys : Endpoint → List String
  | .level => [nvsLevelKey]
  | .txpower => [nvsWifiTxKey, nvsBleTxKey]
  | .cpufreq => [nvsCpuFreqKey, "cpu_ls", "cpu_pd"]
  | .advitvl => [nvsAdvItvlKey]
  | .wifips => [nvsWifiLiKey]
  | .scan => ["scan_win", "scan_int", "scan_act"]

theorem Endpoint.keys_disjoint (i j : Endpoint) (other : i ≠ j) : i.keys.Disjoint j.keys := by
  cases i <;> cases j <;>
    first
    | exact absurd rfl other
    | simp [keys, nvsLevelKey, nvsWifiTxKey, nvsBleTxKey, nvsCpuFreqKey, nvsAdvItvlKey,
        nvsWifiLiKey]

/-- The values of an endpoint that are kept in NVS. -/
abbrev Endpoint.Shown : Endpoint → Type
  | .level | .advitvl | .wifips => Int
  | .txpower => Int8 × Int8
  | .cpufreq => Int × Bool × Bool
  | .scan => UInt16 × UInt16 × Bool

/-- What RAM has of them. -/
def view : (e : Endpoint) → Ram → e.Shown
  | .level, ram => ram.nimbleLevel
  | .txpower, ram => (ram.wifiTxDbm, ram.bleTxDbm)
  | .cpufreq, ram => (ram.cpuFreqMhz, ram.lightSleep, ram.cpuPd)
  | .advitvl, ram => advitvlMs ram.radio
  | .wifips, ram => ram.wifiListenInterval
  | .scan, ram => (ram.radio.windowMs, ram.radio.intervalMs, ram.radio.activeScan)

def storedMhz (nvs : Nvs) : Int :=
  match getI8 nvs nvsCpuFreqKey with
  | some stored =>
      if stored.toInt * 10 = 80 ∨ stored.toInt * 10 = 160 ∨ stored.toInt * 10 = 240 then
        stored.toInt * 10
      else 240
  | none => 240

def storedMs (nvs : Nvs) : Int :=
  let stored := (getU16 nvs nvsAdvItvlKey).getD 0
  if stored = advItvlOff then -1
  else advitvlMs { advIntervalUnits := Radio.advUnits stored }

def storedLi (nvs : Nvs) : Int :=
  match getI8 nvs nvsWifiLiKey with
  | some li => if 0 ≤ li ∧ li ≤ 10 then li.toInt else 0
  | none => 0

/-- What the loaders make of NVS. -/
def read : (e : Endpoint) → Nvs → e.Shown
  | .level, nvs => ((getI8 nvs nvsLevelKey).map Int8.toInt).getD 2
  | .txpower, nvs => ((getI8 nvs nvsWifiTxKey).getD 20, (getI8 nvs nvsBleTxKey).getD 9)
  | .cpufreq, nvs =>
      (storedMhz nvs, ((getI8 nvs "cpu_ls").map fun ls => decide (ls ≠ 0)).getD false,
        ((getI8 nvs "cpu_pd").map fun pd => decide (pd ≠ 0)).getD false)
  | .advitvl, nvs => storedMs nvs
  | .wifips, nvs => storedLi nvs
  | .scan, nvs =>
      (((storedDuty nvs).getD (30, 60)).1, ((storedDuty nvs).getD (30, 60)).2,
        ((getI8 nvs "scan_act").map fun active => decide (active ≠ 0)).getD true)

/-- A loader looks at the keys of its own endpoint only. -/
theorem read_readsOnly (e : Endpoint) : ReadsOnly e.keys (read e) := by
  intro s t same
  have entry : ∀ key ∈ e.keys, getI8 s key = getI8 t key ∧ getU16 s key = getU16 t key := by
    intro key mem
    unfold getI8 getU16
    rw [same key mem]
    exact ⟨rfl, rfl⟩
  cases e <;>
    simp [Endpoint.keys] at entry <;>
    simp [read, storedMhz, storedMs, storedLi, storedDuty, entry]

/-- Every report is what it would be after a reboot. -/
def Saved (d : Device) : Prop := Coherent view read d.ram d.nvs

/-! ## Widths and scalings -/

theorem getI8_trySet (nvs : Nvs) (key : String) (value : Int8) :
    getI8 (nvs.trySet true key (.i8 value)) key = some value := by
  simp [getI8, Store.trySet]

theorem getU16_trySet (nvs : Nvs) (key : String) (value : UInt16) :
    getU16 (nvs.trySet true key (.u16 value)) key = some value := by
  simp [getU16, Store.trySet]

/-- A write under another key. -/
theorem getI8_trySet_of_ne (nvs : Nvs) {key key' : String} (value : NvsValue) (other : key' ≠ key) :
    getI8 (nvs.trySet true key value) key' = getI8 nvs key' := by
  simp [getI8, Store.trySet, other]

theorem getU16_trySet_of_ne (nvs : Nvs) {key key' : String} (value : NvsValue) (other : key' ≠ key) :
    getU16 (nvs.trySet true key value) key' = getU16 nvs key' := by
  simp [getU16, Store.trySet, other]

/-- An accepted interval is not clamped. -/
theorem toNat_advUnits {ms : Nat} (low : ms = 0 ∨ 20 ≤ ms) (high : ms ≤ 10240) :
    (Radio.advUnits (UInt16.ofNat ms)).toNat = ms * 1000 / 625 := by
  have small : (UInt16.ofNat ms).toNat = ms :=
    UInt16.toNat_ofNat_of_lt' (Nat.lt_of_le_of_lt high (by decide))
  rcases low with rfl | low
  · rfl
  · have nonzero : UInt16.ofNat ms ≠ 0 := by
      intro zero
      rw [zero] at small
      simp at small
      omega
    have notBelow : ¬ UInt16.ofNat ms < 20 := by
      rw [UInt16.lt_iff_toNat_lt, small]
      simpa using low
    have notAbove : ¬ 10240 < UInt16.ofNat ms := by
      rw [UInt16.lt_iff_toNat_lt, small]
      simpa using high
    simp only [Radio.advUnits, nonzero, ne_eq, not_false_eq_true, if_true, notBelow, if_false,
      notAbove, small]
    apply UInt16.toNat_ofNat_of_lt'
    simp only [UInt16.size]
    omega

/-- **The conversion is exact.** What is reported for the units of an accepted interval are its
milliseconds. -/
theorem advitvlMs_advUnits {ms : Nat} (low : ms = 0 ∨ 20 ≤ ms) (high : ms ≤ 10240) {radio : Radio}
    (units : radio.advIntervalUnits = Radio.advUnits (UInt16.ofNat ms))
    (allowed : radio.advAllowed = true) : advitvlMs radio = ms := by
  have exact := toNat_advUnits low high
  have zero : radio.advIntervalUnits = 0 ↔ ms = 0 := by
    rw [units, ← UInt16.toNat_inj, exact]
    simp only [UInt16.toNat_zero]
    omega
  unfold advitvlMs
  by_cases none : ms = 0
  · simp [allowed, zero.mpr none, none]
  · have some : ¬ radio.advIntervalUnits = 0 := fun h => none (zero.mp h)
    simp only [allowed, Bool.not_true, Bool.false_eq_true, if_false, some]
    rw [units, exact]
    omega

/-! ## After a boot -/

/-- What the settings need of the radio: there is a scan object, and advertising is not
suspended. -/
structure Settable (radio : Radio) : Prop where
  scan : radio.scan = true
  suspend : radio.advAutoSuspend = false

theorem settable_radioInvariant : RadioInvariant Settable where
  setAdvertisingEnabled r on ok settable := by
    obtain ⟨_, done⟩ := Radio.setAdvertisingEnabled_eq (r := r) on ok
    rw [done]
    exact ⟨settable.scan, settable.suspend⟩
  setAdvIntervalMs r ms ok settable := by
    obtain ⟨_, done⟩ := Radio.setAdvIntervalMs_eq (r := r) ms ok
    rw [done]
    exact ⟨settable.scan, settable.suspend⟩
  setDuty r windowMs intervalMs ok settable := by
    obtain ⟨_, done⟩ := Radio.setDuty_eq settable.scan windowMs intervalMs ok
    rw [done]
    exact ⟨settable.scan, settable.suspend⟩
  setActive r on ok settable := by
    obtain ⟨_, done⟩ := Radio.setActive_eq settable.scan on ok
    rw [done]
    exact ⟨settable.scan, settable.suspend⟩
  powerOff r settable := by
    unfold Radio.powerOff
    split <;> exact ⟨settable.scan, settable.suspend⟩

section Boot

variable (nvs : Nvs) (radio : Radio) (ok : Bool)

theorem loadDuty_eq (scan : radio.scan = true) (window : radio.windowMs = 30)
    (interval : radio.intervalMs = 60) :
    ∃ scanning, loadDuty nvs ok radio =
      { radio with
        windowMs := ((storedDuty nvs).getD (30, 60)).1
        intervalMs := ((storedDuty nvs).getD (30, 60)).2
        scanning } := by
  unfold loadDuty
  cases storedDuty nvs with
  | none =>
      refine ⟨radio.scanning, ?_⟩
      simp [← window, ← interval]
  | some duty => exact Radio.setDuty_eq scan duty.1 duty.2 ok

theorem loadActive_eq (scan : radio.scan = true) (active : radio.activeScan = true) :
    ∃ scanning, loadActive nvs ok radio =
      { radio with
        activeScan := ((getI8 nvs "scan_act").map fun active => decide (active ≠ 0)).getD true
        scanning } := by
  unfold loadActive
  cases getI8 nvs "scan_act" with
  | none =>
      refine ⟨radio.scanning, ?_⟩
      simp [← active]
  | some on => exact Radio.setActive_eq scan (on ≠ 0) ok

/-- The radio after `apply_adv_interval_from_nvs`. -/
theorem applyAdvIntervalFromNvs_eq (ram : Ram) (enabled : ram.radio.advEnabled = true)
    (suspend : ram.radio.advAutoSuspend = false) :
    ∃ advIntervalUnits advEnabled advertising,
      applyAdvIntervalFromNvs nvs ok ram =
        { ram with radio := { ram.radio with advIntervalUnits, advEnabled, advertising } } ∧
      advitvlMs { ram.radio with advIntervalUnits, advEnabled, advertising } = storedMs nvs := by
  simp only [applyAdvIntervalFromNvs, storedMs]
  by_cases off : (getU16 nvs nvsAdvItvlKey).getD 0 = advItvlOff
  · obtain ⟨_, interval⟩ := Radio.setAdvIntervalMs_eq (r := ram.radio) 0 ok
    rw [if_pos off, if_pos off, interval]
    obtain ⟨_, disabled⟩ := Radio.setAdvertisingEnabled_eq
      (r := { ram.radio with advIntervalUnits := Radio.advUnits 0, advertising := _ }) false ok
    rw [disabled]
    exact ⟨_, _, _, rfl, rfl⟩
  · obtain ⟨_, interval⟩ :=
      Radio.setAdvIntervalMs_eq (r := ram.radio) ((getU16 nvs nvsAdvItvlKey).getD 0) ok
    rw [if_neg off, if_neg off, interval]
    refine ⟨_, ram.radio.advEnabled, _, rfl, ?_⟩
    simp [advitvlMs, Radio.advAllowed, enabled, suspend]

theorem applyCpuFreqFromNvs_eq (ram : Ram) (mhz : ram.cpuFreqMhz = 240)
    (ls : ram.lightSleep = false) (pd : ram.cpuPd = false) :
    applyCpuFreqFromNvs nvs ram =
      { ram with
        cpuFreqMhz := storedMhz nvs
        lightSleep := (read .cpufreq nvs).2.1
        cpuPd := (read .cpufreq nvs).2.2 } := by
  simp only [applyCpuFreqFromNvs, storedMhz, read]
  cases getI8 nvs nvsCpuFreqKey with
  | none => simp [← mhz, ls, pd]
  | some stored =>
      simp only
      split
      · rw [ls, pd]
      · rw [ls, pd, ← mhz]

theorem applyWifiPsFromNvs_eq (ram : Ram) (li : ram.wifiListenInterval = 0) :
    applyWifiPsFromNvs nvs ram = { ram with wifiListenInterval := storedLi nvs } := by
  unfold applyWifiPsFromNvs storedLi
  cases getI8 nvs nvsWifiLiKey with
  | none => simp [← li]
  | some stored =>
      simp only
      split
      · rfl
      · rw [← li]

/-- What a device is after a boot. -/
structure Booted (d : Device) : Prop where
  saved : Saved d
  settable : Settable d.ram.radio
  wifiOn : d.ram.wifiOff = false
  bleOn : d.ram.radio.poweredOff = false

theorem booted (nvs : Nvs) (scanStart advStart : Bool) : Booted (boot nvs scanStart advStart) := by
  let loaded : Ram :=
    { nimbleLevel := read .level nvs
      cpuFreqMhz := storedMhz nvs
      lightSleep := (read .cpufreq nvs).2.1
      cpuPd := (read .cpufreq nvs).2.2
      wifiListenInterval := storedLi nvs }
  have early : applyWifiPsFromNvs nvs (applyCpuFreqFromNvs nvs (applyLogOverridesFromNvs nvs {})) =
      loaded := by
    rw [applyCpuFreqFromNvs_eq nvs _ rfl rfl rfl]
    exact applyWifiPsFromNvs_eq nvs _ rfl
  have started : ({} : Radio).start scanStart =
      { started := true, hostUp := true, scan := true, scanning := scanStart } := by
    cases scanStart <;> rfl
  obtain ⟨units, enabled, advertising, interval, ms⟩ := applyAdvIntervalFromNvs_eq nvs
    advStart { loaded with radio := ({} : Radio).start scanStart } (by rw [started]) (by rw [started])
  obtain ⟨scanning, duty⟩ := loadDuty_eq nvs
    { ({} : Radio).start scanStart with
      advIntervalUnits := units, advEnabled := enabled, advertising }
    scanStart (by rw [started]) (by rw [started]) (by rw [started])
  obtain ⟨scanning', active⟩ := loadActive_eq nvs
    { ({} : Radio).start scanStart with
      advIntervalUnits := units, advEnabled := enabled, advertising
      windowMs := ((storedDuty nvs).getD (30, 60)).1
      intervalMs := ((storedDuty nvs).getD (30, 60)).2
      scanning }
    scanStart (by rw [started]) (by rw [started])
  have ram : (boot nvs scanStart advStart).ram =
      { loaded with
        wifiTxDbm := (read .txpower nvs).1
        bleTxDbm := (read .txpower nvs).2
        radio := { ({} : Radio).start scanStart with
          advIntervalUnits := units, advEnabled := enabled, advertising
          windowMs := (read .scan nvs).1
          intervalMs := (read .scan nvs).2.1
          activeScan := (read .scan nvs).2.2
          scanning := scanning' } } := by
    simp only [boot, early, loaded] at interval ⊢
    rw [interval]
    simp only [applyTxPowerFromNvs, applyScanFromNvs]
    rw [duty, active]
    rfl
  rw [started] at ram ms
  refine ⟨?_, ?_, ?_, ?_⟩
  · intro e
    rw [ram]
    cases e with
    | advitvl => exact ms
    | _ => rfl
  · rw [ram]
    exact ⟨rfl, rfl⟩
  · rw [ram]
  · rw [ram]

end Boot

/-! ## After a request -/

section Handlers

variable {d : Device} {query : Query}

@[simp] theorem stores_default (key : String) : ({} : Answers).stores key = true := rfl

/-- Only the part of `e` has changed, in RAM and in NVS. -/
theorem Saved.change (saved : Saved d) (e : Endpoint) {ram : Ram} {nvs : Nvs}
    (same : ∀ j, j ≠ e → view j ram = view j d.ram) (differs : DiffersIn e.keys d.nvs nvs)
    (own : view e ram = read e nvs) : Saved ⟨ram, nvs⟩ :=
  Coherent.step saved read_readsOnly Endpoint.keys_disjoint e same differs own

/-- Nothing that is kept in NVS has changed. -/
theorem Saved.congr (saved : Saved d) {ram : Ram} (same : ∀ e, view e ram = view e d.ram) :
    Saved ⟨ram, d.nvs⟩ :=
  fun e => (same e).trans (saved e)

theorem toInt_ofInt {n : Int} (low : -128 ≤ n) (high : n ≤ 127) : (Int8.ofInt n).toInt = n :=
  Int8.toInt_ofInt_of_le low (by omega)

theorem saved_levelSet (saved : Saved d) : Saved (handleLevelSet d query {}).1 := by
  unfold handleLevelSet
  cases query "nimble" with
  | none => exact saved
  | some val =>
      dsimp only
      by_cases range : atoi val < 0 ∨ 5 < atoi val
      · simpa [range] using saved
      · simp only [range, if_false, stores_default, Bool.not_true, Bool.false_eq_true]
        refine saved.change .level ?_ ?_ ?_
        · intro j other
          cases j <;> first | rfl | exact absurd rfl other
        · exact differsIn_trySet _ _ _ (by simp [Endpoint.keys])
        · simp only [view, read, getI8_trySet, Option.map_some, Option.getD_some]
          exact (toInt_ofInt (by omega) (by omega)).symm

theorem saved_wifipsSet (saved : Saved d) : Saved (handleWifipsSet d query {}).1 := by
  unfold handleWifipsSet
  cases query "li" with
  | none => exact saved
  | some val =>
      dsimp only
      by_cases range : atoi val < 0 ∨ 10 < atoi val
      · simpa [range] using saved
      by_cases equal : atoi val = d.ram.wifiListenInterval
      · rw [if_neg range, if_pos equal]
        exact saved
      · simp only [range, equal, if_false, stores_default, Bool.not_true, Bool.false_eq_true]
        refine saved.change .wifips ?_ ?_ ?_
        · intro j other
          cases j <;> first | rfl | exact absurd rfl other
        · exact differsIn_trySet _ _ _ (by simp [Endpoint.keys])
        · have back := toInt_ofInt (n := atoi val) (by omega) (by omega)
          have valid : 0 ≤ Int8.ofInt (atoi val) ∧ Int8.ofInt (atoi val) ≤ 10 := by
            rw [Int8.le_iff_toInt_le, Int8.le_iff_toInt_le, back]
            exact ⟨Int.not_lt.mp fun h => range (.inl h), Int.not_lt.mp fun h => range (.inr h)⟩
          simp only [view, read, storedLi, getI8_trySet, valid, and_self, if_true, back]

theorem saved_setWifiTx (saved : Saved d) : Saved (setWifiTx d query {}).1 := by
  unfold setWifiTx
  cases query "wifi" with
  | none => exact saved
  | some val =>
      dsimp only
      split
      · split
        · exact saved
        · exact saved.congr fun e => by cases e <;> rfl
      split
      · exact saved
      split
      · exact saved
      split
      · have parts := Prod.mk.inj (saved .txpower)
        refine saved.change .txpower ?_ ?_ ?_
        · intro j other
          cases j <;> first | rfl | exact absurd rfl other
        · exact differsIn_trySet _ _ _ (by simp [Endpoint.keys])
        · simp only [view, read, getI8_trySet, stores_default, Option.getD_some]
          rw [getI8_trySet_of_ne _ _ (by decide), parts.2]
      · exact saved

theorem saved_setBleTx (saved : Saved d) : Saved (setBleTx d query {}).1 := by
  unfold setBleTx
  cases query "ble" with
  | none => exact saved
  | some val =>
      dsimp only
      split
      · split
        · exact saved
        · rename_i on
          refine saved.congr fun e => ?_
          cases e <;> simp [view, Radio.powerOff, on, advitvlMs, Radio.advAllowed]
      split
      · exact saved
      split
      · exact saved
      split
      · have parts := Prod.mk.inj (saved .txpower)
        refine saved.change .txpower ?_ ?_ ?_
        · intro j other
          cases j <;> first | rfl | exact absurd rfl other
        · exact differsIn_trySet _ _ _ (by simp [Endpoint.keys])
        · simp only [view, read, getI8_trySet, stores_default, Option.getD_some]
          rw [getI8_trySet_of_ne _ _ (by decide), parts.1]
      · exact saved

theorem saved_txpowerSet (saved : Saved d) : Saved (handleTxpowerSet d query {}).1 := by
  have wifi : Saved (setWifiTx d query {}).1 := saved_setWifiTx saved
  unfold handleTxpowerSet
  cases first : setWifiTx d query {} with
  | mk d' result =>
      rw [first] at wifi
      cases result with
      | error text => exact wifi
      | ok wifiChanged =>
          have ble : Saved (setBleTx d' query {}).1 := saved_setBleTx wifi
          dsimp only at ble ⊢
          cases second : setBleTx d' query {} with
          | mk d'' result =>
              rw [second] at ble
              cases result with
              | error text => exact ble
              | ok bleChanged => cases wifiChanged <;> cases bleChanged <;> exact ble

/-- The clocks the device can have. -/
def validMhz (mhz : Int) : Prop := mhz = 80 ∨ mhz = 160 ∨ mhz = 240

theorem validMhz_storedMhz (nvs : Nvs) : validMhz (storedMhz nvs) := by
  unfold storedMhz validMhz
  cases getI8 nvs nvsCpuFreqKey with
  | none => exact .inr (.inr rfl)
  | some stored =>
      dsimp only
      split
      · assumption
      · exact .inr (.inr rfl)

theorem storedMhz_of_write {nvs : Nvs} {mhz : Int} (valid : validMhz mhz)
    (stored : getI8 nvs nvsCpuFreqKey = some (Int8.ofInt (mhz.tdiv 10))) : storedMhz nvs = mhz := by
  unfold storedMhz
  rw [stored]
  rcases valid with rfl | rfl | rfl <;> rfl

theorem decide_flag (on : Bool) : decide ((if on then (1 : Int8) else 0) ≠ 0) = on := by
  cases on <;> rfl

/-- The three values are stored together, whichever of them was given. -/
theorem saved_cpuWrites (saved : Saved d) {mhz : Int} (valid : validMhz mhz) (lightSleep cpuPd : Bool) :
    Saved
      ⟨{ d.ram with cpuFreqMhz := mhz, lightSleep, cpuPd },
        ((d.nvs.trySet true nvsCpuFreqKey (.i8 (Int8.ofInt (mhz.tdiv 10)))).trySet true "cpu_ls"
          (.i8 (if lightSleep then 1 else 0))).trySet true "cpu_pd" (.i8 (if cpuPd then 1 else 0))⟩ := by
  refine saved.change .cpufreq ?_ ?_ ?_
  · intro j other
    cases j <;> first | rfl | exact absurd rfl other
  · have own (key : String) (is : key = nvsCpuFreqKey ∨ key = "cpu_ls" ∨ key = "cpu_pd") :
        key ∈ Endpoint.cpufreq.keys := by
      simpa [Endpoint.keys] using is
    have set (nvs : Nvs) (key : String) (value : NvsValue) (mem : key ∈ Endpoint.cpufreq.keys) :
        DiffersIn Endpoint.cpufreq.keys nvs (nvs.trySet true key value) :=
      differsIn_trySet nvs true value mem
    exact ((set _ _ _ (own _ (.inl rfl))).trans (set _ _ _ (own _ (.inr (.inl rfl))))).trans
      (set _ _ _ (own _ (.inr (.inr rfl))))
  · simp only [view, read]
    rw [getI8_trySet, getI8_trySet_of_ne _ _ (by decide), getI8_trySet, storedMhz_of_write valid]
    · simp only [Option.map_some, Option.getD_some, decide_flag]
    · rw [getI8_trySet_of_ne _ _ (by decide), getI8_trySet_of_ne _ _ (by decide), getI8_trySet]

theorem saved_cpufreqSet (saved : Saved d) : Saved (handleCpufreqSet d query {}).1 := by
  have current : validMhz d.ram.cpuFreqMhz := by
    have mhz := (Prod.mk.inj (saved .cpufreq)).1
    rw [mhz]
    exact validMhz_storedMhz d.nvs
  unfold handleCpufreqSet
  dsimp only
  split
  · exact saved
  rename_i accepted
  split
  · rename_i nothing
    simp only [Bool.not_eq_true', Bool.or_eq_false_iff, Option.isSome_eq_false_iff,
      Option.isNone_iff_eq_none] at nothing
    refine saved.congr fun e => ?_
    cases e <;> simp [view, nothing]
  · refine saved_cpuWrites saved ?_ _ _
    cases given : query "mhz" with
    | none => exact current
    | some val =>
        simp only [given, Option.isSome_some, true_and, Option.map_some, Option.getD_some] at accepted ⊢
        unfold validMhz
        omega

/-- Either the request is refused and nothing has happened, or its interval is what is in effect
and what is stored. -/
theorem advitvlSet_cases (query : Query) (settable : Settable d.ram.radio) :
    (∃ text, handleAdvitvlSet d query {} = (d, some text)) ∨
      ∃ val advIntervalUnits advEnabled advertising nvs,
        query "ms" = some val ∧
        handleAdvitvlSet d query {} = (⟨{ d.ram with
          radio := { d.ram.radio with advIntervalUnits, advEnabled, advertising } }, nvs⟩, none) ∧
        DiffersIn Endpoint.advitvl.keys d.nvs nvs ∧
        advitvlMs { d.ram.radio with advIntervalUnits, advEnabled, advertising } = atoi val ∧
        storedMs nvs = atoi val := by
  unfold handleAdvitvlSet
  cases query "ms" with
  | none => exact .inl ⟨_, rfl⟩
  | some val =>
      dsimp only
      split
      · exact .inl ⟨_, rfl⟩
      split
      · exact .inl ⟨_, rfl⟩
      rename_i inside notShort
      right
      have differs (value : NvsValue) : DiffersIn Endpoint.advitvl.keys d.nvs
          (d.nvs.trySet true nvsAdvItvlKey value) :=
        differsIn_trySet _ _ _ (by simp [Endpoint.keys])
      by_cases off : atoi val = -1
      · obtain ⟨advertising, disabled⟩ := Radio.setAdvertisingEnabled_eq (r := d.ram.radio) false true
        refine ⟨val, d.ram.radio.advIntervalUnits, false, advertising, _, rfl, ?_, differs (.u16 advItvlOff),
          ?_, ?_⟩
        · simp [off, disabled]
        · simp [advitvlMs, Radio.advAllowed, off]
        · simp [storedMs, getU16_trySet, off]
      · obtain ⟨ms, parsed⟩ : ∃ ms : Nat, atoi val = ms := Int.eq_ofNat_of_zero_le (by omega)
        have low : ms = 0 ∨ 20 ≤ ms := by omega
        have high : ms ≤ 10240 := by omega
        obtain ⟨running, interval⟩ :=
          Radio.setAdvIntervalMs_eq (r := d.ram.radio) (UInt16.ofNat ms) true
        obtain ⟨advertising, enabled⟩ := Radio.setAdvertisingEnabled_eq (r := { d.ram.radio with
          advIntervalUnits := Radio.advUnits (UInt16.ofNat ms), advertising := running }) true true
        refine ⟨val, Radio.advUnits (UInt16.ofNat ms), true, advertising, _, rfl, ?_,
          differs (.u16 (UInt16.ofNat ms)), ?_, ?_⟩
        · have notOff : ¬ (ms : Int) = -1 := by omega
          simp [parsed, notOff, interval, enabled]
        · rw [parsed]
          exact advitvlMs_advUnits low high rfl (by simp [Radio.advAllowed, settable.suspend])
        · have notSentinel : ¬ UInt16.ofNat ms = advItvlOff := by
            intro sentinel
            have value := congrArg UInt16.toNat sentinel
            rw [UInt16.toNat_ofNat_of_lt' (Nat.lt_of_le_of_lt high (by decide))] at value
            simp only [advItvlOff, UInt16.reduceToNat] at value
            omega
          rw [parsed, storedMs, getU16_trySet]
          simp only [Option.getD_some, notSentinel, if_false]
          exact advitvlMs_advUnits low high rfl rfl

theorem saved_advitvlSet (saved : Saved d) (settable : Settable d.ram.radio) :
    Saved (handleAdvitvlSet d query {}).1 := by
  rcases advitvlSet_cases query settable with ⟨_, refused⟩ | ⟨_, _, _, _, _, _, done, differs, shown, stored⟩
  · rw [refused]
    exact saved
  · rw [done]
    refine saved.change .advitvl ?_ differs (shown.trans stored.symm)
    intro j other
    cases j <;> first | rfl | exact absurd rfl other

theorem parseScan_ok {windowMs intervalMs : UInt16} {request : ScanRequest} {duty : Int × Int}
    (accepted : parseScan windowMs intervalMs query = .ok request) (some : request.duty = some duty) :
    20 ≤ duty.1 ∧ duty.1 ≤ duty.2 ∧ duty.2 ≤ 10000 := by
  unfold parseScan at accepted
  dsimp only at accepted
  split at accepted
  · cases accepted
  split at accepted
  · cases accepted
  split at accepted
  · cases accepted
  split at accepted
  · cases accepted
  rename_i windowRange intervalRange order
  cases accepted
  dsimp only at some
  split at some
  · rename_i changed
    cases some
    rw [changed] at windowRange intervalRange order
    simp only [true_and] at windowRange intervalRange order
    dsimp only
    omega
  · cases some

theorem saved_applyDuty (saved : Saved d) (settable : Settable d.ram.radio) {duty : Int × Int}
    (valid : 20 ≤ duty.1 ∧ duty.1 ≤ duty.2 ∧ duty.2 ≤ 10000) :
    Saved (applyDuty d duty {}) := by
  obtain ⟨scanning, applied⟩ := Radio.setDuty_eq settable.scan (UInt16.ofNat duty.1.toNat)
    (UInt16.ofNat duty.2.toNat) true
  have active := (Prod.mk.inj (Prod.mk.inj (saved .scan)).2).2
  unfold applyDuty
  simp only [applied, stores_default]
  refine saved.change .scan ?_ ?_ ?_
  · intro j other
    cases j <;> first | rfl | exact absurd rfl other
  · exact (differsIn_trySet _ _ _ (by simp [Endpoint.keys])).trans
      (differsIn_trySet _ _ _ (by simp [Endpoint.keys]))
  · have duty : storedDuty ((d.nvs.trySet true "scan_win" (.u16 (UInt16.ofNat duty.1.toNat))).trySet
        true "scan_int" (.u16 (UInt16.ofNat duty.2.toNat))) =
        some (UInt16.ofNat duty.1.toNat, UInt16.ofNat duty.2.toNat) := by
      unfold storedDuty
      rw [getU16_trySet, getU16_trySet_of_ne _ _ (by decide), getU16_trySet]
      have window : (UInt16.ofNat duty.1.toNat).toNat = duty.1.toNat :=
        UInt16.toNat_ofNat_of_lt' (by simp only [UInt16.size]; omega)
      have interval : (UInt16.ofNat duty.2.toNat).toNat = duty.2.toNat :=
        UInt16.toNat_ofNat_of_lt' (by simp only [UInt16.size]; omega)
      refine if_pos ⟨?_, ?_, ?_⟩ <;> rw [UInt16.le_iff_toNat_le]
      · simp only [window, UInt16.reduceToNat]
        omega
      · rw [window, interval]
        omega
      · simp only [interval, UInt16.reduceToNat]
        omega
    simp only [view, read, duty, Option.getD_some]
    rw [getI8_trySet_of_ne _ _ (by decide), getI8_trySet_of_ne _ _ (by decide), active]

theorem saved_applyActive (saved : Saved d) (settable : Settable d.ram.radio) (active : Bool) :
    Saved (applyActive d active {}) := by
  obtain ⟨scanning, applied⟩ := Radio.setActive_eq settable.scan active true
  have parts := Prod.mk.inj (saved .scan)
  unfold applyActive
  simp only [applied, stores_default]
  refine saved.change .scan ?_ ?_ ?_
  · intro j other
    cases j <;> first | rfl | exact absurd rfl other
  · exact differsIn_trySet _ _ _ (by simp [Endpoint.keys])
  · have same : storedDuty (d.nvs.trySet true "scan_act" (.i8 (if active then 1 else 0))) =
        storedDuty d.nvs := by
      unfold storedDuty
      rw [getU16_trySet_of_ne _ _ (by decide), getU16_trySet_of_ne _ _ (by decide)]
    simp only [view, read, same, getI8_trySet, Option.map_some, Option.getD_some, decide_flag]
    rw [parts.1, (Prod.mk.inj parts.2).1]

theorem saved_scanSet (saved : Saved d) (settable : Settable d.ram.radio) :
    Saved (handleScanSet d query {}).1 := by
  unfold handleScanSet
  cases parsed : parseScan d.ram.radio.windowMs d.ram.radio.intervalMs query with
  | error text => exact saved
  | ok request =>
      obtain ⟨saved', settable'⟩ :
          Saved ((request.duty.map fun duty => applyDuty d duty {}).getD d) ∧
          Settable ((request.duty.map fun duty => applyDuty d duty {}).getD d).ram.radio := by
        cases given : request.duty with
        | none => exact ⟨saved, settable⟩
        | some duty =>
            exact ⟨saved_applyDuty saved settable (parseScan_ok parsed given),
              settable_radioInvariant.setDuty _ _ _ _ settable⟩
      dsimp only
      cases request.active with
      | none => exact saved'
      | some active => exact saved_applyActive saved' settable' active

end Handlers

/-! ## The power that was configured -/

/-- The WiFi power an accepted request sets; `wifi=0` is no power. -/
def wifiValue (query : Query) : Option Int :=
  (query "wifi").bind fun val => if atoi val = 0 then none else some (atoi val)

/-- The BLE power it sets. -/
def bleValue (query : Query) : Option Int :=
  (query "ble").bind fun val => if val = "off" then none else some (atoi val)

def Post.wifiTx : Post → Option Int
  | .txpower query => wifiValue query
  | _ => none

def Post.bleTx : Post → Option Int
  | .txpower query => bleValue query
  | _ => none

/-- The last value that the posts set, if any does. -/
def lastOf (value : Post → Option Int) (posts : List Post) (initial : Int) : Int :=
  posts.foldl (fun current post => (value post).getD current) initial

section Power

variable {d : Device} {query : Query}

theorem setWifiTx_ok {changed : Bool} (accepted : (setWifiTx d query {}).2 = .ok changed) :
    (setWifiTx d query {}).1.ram.wifiTxDbm.toInt =
        (wifiValue query).getD d.ram.wifiTxDbm.toInt ∧
      (setWifiTx d query {}).1.ram.bleTxDbm = d.ram.bleTxDbm := by
  unfold setWifiTx at accepted ⊢
  unfold wifiValue
  cases given : query "wifi" with
  | none => exact ⟨rfl, rfl⟩
  | some val =>
      simp only [given] at accepted
      dsimp only
      by_cases zero : atoi val = 0
      · simp only [zero, if_true, Option.bind_some, Option.getD_none]
        split <;> exact ⟨rfl, rfl⟩
      · simp only [zero, if_false, Option.bind_some, Option.getD_some] at accepted ⊢
        by_cases range : atoi val < 2 ∨ 21 < atoi val
        · rw [if_pos range] at accepted
          cases accepted
        by_cases off : d.ram.wifiOff = true
        · rw [if_neg range, if_pos off] at accepted
          cases accepted
        by_cases same : atoi val = d.ram.wifiTxDbm.toInt
        · rw [if_neg range, if_neg off, if_neg (not_not.mpr same)]
          exact ⟨same.symm, rfl⟩
        · simp only [range, off, same, ne_eq, not_false_eq_true, if_false, if_true, Bool.not_true,
            Bool.false_eq_true]
          exact ⟨toInt_ofInt (by omega) (by omega), rfl⟩

theorem setBleTx_ok {changed : Bool} (accepted : (setBleTx d query {}).2 = .ok changed) :
    (setBleTx d query {}).1.ram.bleTxDbm.toInt = (bleValue query).getD d.ram.bleTxDbm.toInt ∧
      (setBleTx d query {}).1.ram.wifiTxDbm = d.ram.wifiTxDbm := by
  unfold setBleTx at accepted ⊢
  unfold bleValue
  cases given : query "ble" with
  | none => exact ⟨rfl, rfl⟩
  | some val =>
      simp only [given] at accepted
      dsimp only
      by_cases off : val = "off"
      · simp only [off, if_true, Option.bind_some, Option.getD_none]
        split <;> exact ⟨rfl, rfl⟩
      · simp only [off, if_false, Option.bind_some, Option.getD_some] at accepted ⊢
        by_cases range : atoi val < -12 ∨ 9 < atoi val
        · rw [if_pos range] at accepted
          cases accepted
        by_cases poweredOff : d.ram.radio.poweredOff = true
        · rw [if_neg range, if_pos poweredOff] at accepted
          cases accepted
        by_cases same : atoi val = d.ram.bleTxDbm.toInt
        · rw [if_neg range, if_neg poweredOff, if_neg (not_not.mpr same)]
          exact ⟨same.symm, rfl⟩
        · simp only [range, poweredOff, same, ne_eq, not_false_eq_true, if_false, if_true,
            Bool.not_true, Bool.false_eq_true]
          exact ⟨toInt_ofInt (by omega) (by omega), rfl⟩

theorem txpowerSet_ok (accepted : (handleTxpowerSet d query {}).2 = none) :
    (handleTxpowerSet d query {}).1.ram.wifiTxDbm.toInt =
        (wifiValue query).getD d.ram.wifiTxDbm.toInt ∧
      (handleTxpowerSet d query {}).1.ram.bleTxDbm.toInt =
        (bleValue query).getD d.ram.bleTxDbm.toInt := by
  have wifi (changed : Bool) (first : (setWifiTx d query {}).2 = .ok changed) := setWifiTx_ok first
  unfold handleTxpowerSet at accepted ⊢
  cases first : setWifiTx d query {} with
  | mk d' result =>
      rw [first] at accepted wifi
      cases result with
      | error text => cases accepted
      | ok wifiChanged =>
          obtain ⟨wifiSet, bleKept⟩ := wifi wifiChanged rfl
          have ble (changed : Bool) (second : (setBleTx d' query {}).2 = .ok changed) :=
            setBleTx_ok second
          dsimp only at accepted wifiSet bleKept ⊢
          cases second : setBleTx d' query {} with
          | mk d'' result =>
              rw [second] at accepted ble
              cases result with
              | error text => cases accepted
              | ok bleChanged =>
                  obtain ⟨bleSet, wifiKept⟩ := ble bleChanged rfl
                  dsimp only at bleSet wifiKept ⊢
                  rw [bleKept] at bleSet
                  rw [← wifiKept] at wifiSet
                  cases wifiChanged <;> cases bleChanged <;> exact ⟨wifiSet, bleSet⟩

/-- The other handlers leave the power alone. -/
theorem view_txpower_handle {post : Post} (other : ∀ query, post ≠ .txpower query) :
    view .txpower (handle d post {}).1.ram = view .txpower d.ram := by
  cases post with
  | txpower query => exact absurd rfl (other query)
  | level query =>
      simp only [handle, handleLevelSet]
      repeat' split
      all_goals rfl
  | cpufreq query =>
      simp only [handle, handleCpufreqSet]
      repeat' split
      all_goals rfl
  | advitvl query =>
      simp only [handle, handleAdvitvlSet]
      repeat' split
      all_goals rfl
  | wifips query =>
      simp only [handle, handleWifipsSet]
      repeat' split
      all_goals rfl
  | scan query =>
      simp only [handle, handleScanSet]
      split
      · rfl
      · rename_i request _
        cases request.duty <;> cases request.active <;> rfl

end Power

/-! ## Runs -/

/-- The device after a request, if it is accepted. -/
def accept (d : Device) (post : Post) : Option Device :=
  match handle d post {} with
  | (d', none) => some d'
  | (_, some _) => none

/-- RAM is reset, NVS is kept. -/
def reboot (d : Device) : Device := boot d.nvs true true

/-- What the requests keep, and the power they have set so far. -/
structure Configured (wifi ble : Int) (d : Device) : Prop where
  saved : Saved d
  settable : Settable d.ram.radio
  wifi : d.ram.wifiTxDbm.toInt = wifi
  ble : d.ram.bleTxDbm.toInt = ble

section Runs

variable {d d' : Device} {post : Post} {wifi ble : Int}

theorem accept_eq (accepted : accept d post = some d') : handle d post {} = (d', none) := by
  unfold accept at accepted
  split at accepted
  · rename_i done
    cases accepted
    exact done
  · cases accepted

theorem saved_handle (settable : Settable d.ram.radio) (saved : Saved d) :
    Saved (handle d post {}).1 := by
  cases post with
  | level query => exact saved_levelSet saved
  | txpower query => exact saved_txpowerSet saved
  | cpufreq query => exact saved_cpufreqSet saved
  | advitvl query => exact saved_advitvlSet saved settable
  | wifips query => exact saved_wifipsSet saved
  | scan query => exact saved_scanSet saved settable

theorem Configured.accept (configured : Configured wifi ble d) (accepted : accept d post = some d') :
    Configured ((post.wifiTx).getD wifi) ((post.bleTx).getD ble) d' := by
  have done := accept_eq accepted
  have saved : Saved (handle d post {}).1 := saved_handle configured.settable configured.saved
  have settable : Settable (handle d post {}).1.ram.radio :=
    settable_radioInvariant.handle configured.settable
  rw [done] at saved settable
  have power : d'.ram.wifiTxDbm.toInt = (post.wifiTx).getD wifi ∧
      d'.ram.bleTxDbm.toInt = (post.bleTx).getD ble := by
    rw [← configured.wifi, ← configured.ble]
    by_cases txpower : ∃ query, post = .txpower query
    · obtain ⟨query, rfl⟩ := txpower
      have set (ok : (handleTxpowerSet d query {}).2 = none) := txpowerSet_ok ok
      rw [handle] at done
      rw [done] at set
      exact set rfl
    · have kept : view .txpower (handle d post {}).1.ram = view .txpower d.ram :=
        view_txpower_handle fun query same => txpower ⟨query, same⟩
      rw [done] at kept
      obtain ⟨wifi, ble⟩ := Prod.mk.inj kept
      cases post with
      | txpower query => exact absurd ⟨query, rfl⟩ txpower
      | _ => exact ⟨congrArg Int8.toInt wifi, congrArg Int8.toInt ble⟩
  exact ⟨saved, settable, power.1, power.2⟩

theorem Configured.run (configured : Configured wifi ble d) {posts : List Post}
    (accepted : posts.foldlM Settings.accept d = some d') :
    Configured (lastOf Post.wifiTx posts wifi) (lastOf Post.bleTx posts ble) d' := by
  induction posts generalizing d wifi ble with
  | nil =>
      cases accepted
      exact configured
  | cons post rest ih =>
      rw [List.foldlM_cons, Option.bind_eq_bind, Option.bind_eq_some_iff] at accepted
      obtain ⟨next, first, later⟩ := accepted
      exact ih (configured.accept first) later

/-- A report of these values. -/
def assemble (shown : ∀ e : Endpoint, e.Shown) (wifiOff bleOff : Bool) : Report where
  nimble := shown .level
  wifi := if wifiOff then 0 else (shown .txpower).1.toInt
  ble := (shown .txpower).2.toInt
  bleOff := bleOff
  mhz := (shown .cpufreq).1
  ls := (shown .cpufreq).2.1
  pdcpu := (shown .cpufreq).2.2
  ms := shown .advitvl
  li := shown .wifips
  window := (shown .scan).1
  interval := (shown .scan).2.1
  active := (shown .scan).2.2

theorem report_eq (ram : Ram) :
    report ram = assemble (fun e => view e ram) ram.wifiOff ram.radio.poweredOff := rfl

/-- A reboot brings back what is kept in NVS, with WiFi and BLE on. -/
theorem report_reboot (saved : Saved d) :
    report (reboot d).ram = assemble (fun e => view e d.ram) false false := by
  have again := booted d.nvs true true
  have same : (fun e => view e (reboot d).ram) = fun e => view e d.ram :=
    funext fun e => (again.saved e).trans (saved e).symm
  rw [report_eq, same]
  exact congrArg₂ (assemble _) again.wifiOn again.bleOn

/-- **Settings survive a reboot.** Every GET reports after the reboot what it has reported before
it, except that WiFi and BLE are on, with the power that was configured last. An accepted
advertising interval is reported as it was given, before and after a reboot. -/
theorem settings_survive_reboot (nvs : Nvs) (posts : List Post) (d : Device)
    (accepted : posts.foldlM Settings.accept (boot nvs true true) = some d) :
    let wifi := lastOf Post.wifiTx posts (report (boot nvs true true).ram).wifi
    let ble := lastOf Post.bleTx posts (report (boot nvs true true).ram).ble
    report (reboot d).ram = { report d.ram with wifi, ble, bleOff := false } ∧
      (report d.ram).wifi = (if d.ram.wifiOff then 0 else wifi) ∧ (report d.ram).ble = ble ∧
      ∀ query val d', query "ms" = some val → Settings.accept d (.advitvl query) = some d' →
        (report d'.ram).ms = atoi val ∧ (report (reboot d').ram).ms = atoi val := by
  intro wifi ble
  have start := booted nvs true true
  have wifiOn : (report (boot nvs true true).ram).wifi = (boot nvs true true).ram.wifiTxDbm.toInt := by
    simp [report, start.wifiOn]
  have configured : Configured (report (boot nvs true true).ram).wifi
      (report (boot nvs true true).ram).ble (boot nvs true true) :=
    ⟨start.saved, start.settable, wifiOn.symm, rfl⟩
  have done := configured.run accepted
  refine ⟨?_, ?_, done.ble, ?_⟩
  · rw [report_reboot done.saved, report_eq d.ram]
    simp only [assemble, view, done.wifi, done.ble, Bool.false_eq_true, if_false, wifi, ble]
  · exact congrArg (fun power => if d.ram.wifiOff then 0 else power) done.wifi
  · intro query val d' given next
    rcases advitvlSet_cases query done.settable with
      ⟨_, refused⟩ | ⟨_, _, _, _, _, given', set, -, shown, stored⟩
    · have := accept_eq next
      rw [handle, refused] at this
      cases this
    · have same := accept_eq next
      rw [handle, set] at same
      cases same
      obtain rfl := Option.some.inj (given.symm.trans given')
      exact ⟨shown, ((booted _ true true).saved .advitvl).trans stored⟩

/-- A request of each kind; WiFi and BLE are switched off in between. -/
def samplePosts : List Post :=
  let query (pairs : List (String × String)) : Query := fun key => pairs.lookup key
  [.level (query [("nimble", "4")]), .txpower (query [("wifi", "10"), ("ble", "3")]),
    .cpufreq (query [("mhz", "80"), ("ls", "1")]), .advitvl (query [("ms", "33")]),
    .scan (query [("interval", "100"), ("active", "0")]), .wifips (query [("li", "3")]),
    .txpower (query [("wifi", "0"), ("ble", "off")])]

theorem settings_survive_reboot_sample :
    ∃ d, samplePosts.foldlM Settings.accept (boot (fun _ => none) true true) = some d ∧
      report d.ram = ⟨4, 0, 3, true, 80, true, false, 33, 3, 30, 100, false⟩ ∧
      report (reboot d).ram = ⟨4, 10, 3, false, 80, true, false, 33, 3, 30, 100, false⟩ := by
  have ran : (samplePosts.foldlM Settings.accept (boot (fun _ => none) true true)).map
      (fun d => report d.ram) =
        some ⟨4, 0, 3, true, 80, true, false, 33, 3, 30, 100, false⟩ := by
    decide +kernel
  obtain ⟨d, accepted, shown⟩ := Option.map_eq_some_iff.mp ran
  refine ⟨d, accepted, shown, ?_⟩
  rw [(settings_survive_reboot _ _ d accepted).1, shown]
  decide +kernel

end Runs

end NimbleProxy.Api.Settings
