/-
# Api.Rejection -- what a rejected setting has changed

The handlers of POST /level, /txpower, /cpufreq, /advitvl, /wifips, /scan and /hostname
over everything that a request can change: RAM, NVS, and what WiFi, the Bluetooth
controller and the power management were told last. A handler with one parameter checks
it, stores it, and then applies it. Two handlers take more than one: /txpower goes
through them one after the other, and /cpufreq has set `g_cpu_pd` when it comes to the
clock. These two can leave the first half of a request behind (`rejected_unchanged_iff`).

Without the hardware the handlers are those of `Api.Settings` (`handle_settings`). A call
that fails has no effect; a value is in NVS once it is committed. Log levels are no part
of the radio or the CPU and are left out.
-/
import NimbleProxy.Api.Hostname
import NimbleProxy.Api.ReportedInterval

namespace NimbleProxy.Api.Rejection

open NimbleProxy.Theory.KeyValue NimbleProxy.Backend NimbleProxy.Api.Settings

set_option autoImplicit false

/-! ## State -/

/-- What the hardware was told last. -/
structure Hardware where
  /-- `esp_wifi_stop` has not been called -/
  wifiStarted : Bool
  /-- `esp_wifi_set_max_tx_power`, in units of 0.25 dBm -/
  wifiMaxTxPower : Int
  /-- `esp_ble_tx_power_set`, in dBm -/
  blePowerLevel : Int
  /-- `max_freq_mhz`, which is also `min_freq_mhz`, and `light_sleep_enable` -/
  pmMhz : Int
  pmLightSleep : Bool
  /-- the power domain of the CPU is `ESP_PD_OPTION_AUTO` -/
  cpuPdAuto : Bool
  /-- `WIFI_PS_MAX_MODEM` -/
  psMaxModem : Bool
  deriving DecidableEq

structure Config where
  device : Device
  hostname : Hostname.Device
  hardware : Hardware

/-- What NVS and the hardware answer; `esp_wifi_set_ps` answers to nobody. -/
structure Outcomes extends Answers where
  wifiPs : Bool := true

/-- `dbm_to_ble_lvl`. -/
def dbmToBleLvl (dbm : Int) : Int :=
  if dbm ≤ -12 then -12
  else if dbm ≤ -9 then -9
  else if dbm ≤ -6 then -6
  else if dbm ≤ -3 then -3
  else if dbm ≤ 0 then 0
  else if dbm ≤ 3 then 3
  else if dbm ≤ 6 then 6
  else 9

/-! ## The handlers -/

section Handlers

variable (c : Config) (query : Query) (outcomes : Outcomes)

def setWifiTx : Config × Except String Bool :=
  match query "wifi" with
  | none => (c, .ok false)
  | some val =>
      let d := c.device
      let dbm := atoi val
      if dbm = 0 then
        if d.ram.wifiOff then (c, .ok false)
        else if !outcomes.wifiStop then (c, .error "wifi stop failed")
        else
          ({ c with
             device := { d with ram := { d.ram with wifiOff := true } }
             hardware := { c.hardware with wifiStarted := false } }, .ok true)
      else if dbm < 2 ∨ 21 < dbm then (c, .error "wifi 0 or 2..21")
      else if d.ram.wifiOff then (c, .error "wifi off; reboot to re-enable")
      else if dbm ≠ d.ram.wifiTxDbm.toInt then
        if !outcomes.wifiTx then (c, .error "wifi tx apply failed")
        else
          let d := { d with ram := { d.ram with wifiTxDbm := Int8.ofInt dbm } }
          ({ c with
             device := d.writeI8 outcomes.toAnswers nvsWifiTxKey d.ram.wifiTxDbm
             hardware := { c.hardware with wifiMaxTxPower := dbm * 4 } }, .ok true)
      else (c, .ok false)

def setBleTx : Config × Except String Bool :=
  match query "ble" with
  | none => (c, .ok false)
  | some val =>
      let d := c.device
      if val = "off" then
        if d.ram.radio.poweredOff then (c, .ok false)
        else
          ({ c with
             device := { d with ram := { d.ram with radio := d.ram.radio.powerOff } } }, .ok true)
      else
        let dbm := atoi val
        if dbm < -12 ∨ 9 < dbm then (c, .error "ble -12..9 or off")
        else if d.ram.radio.poweredOff then (c, .error "ble off; reboot to re-enable")
        else if dbm ≠ d.ram.bleTxDbm.toInt then
          if !outcomes.bleTx then (c, .error "ble tx apply failed")
          else
            let d := { d with ram := { d.ram with bleTxDbm := Int8.ofInt dbm } }
            ({ c with
               device := d.writeI8 outcomes.toAnswers nvsBleTxKey d.ram.bleTxDbm
               hardware := { c.hardware with blePowerLevel := dbmToBleLvl dbm } }, .ok true)
        else (c, .ok false)

def handleTxpowerSet : Config × Option String :=
  match setWifiTx c query outcomes with
  | (c, .error text) => (c, some text)
  | (c, .ok wifiChanged) =>
      match setBleTx c query outcomes with
      | (c, .error text) => (c, some text)
      | (c, .ok bleChanged) =>
          if wifiChanged || bleChanged then (c, none) else (c, some "no params or no change")

/-- `apply_cpu_freq_mhz`, and whether `esp_pm_configure` has succeeded. The power domain is set
in either case, on a SoC that has it (`SOC_PM_SUPPORT_CPU_PD`). -/
def applyCpuFreqMhz (socCpuPd : Bool) (mhz : Int) (lightSleep : Bool) : Config × Bool :=
  let c :=
    if outcomes.cpuFreq then
      { c with
        device := { c.device with ram := { c.device.ram with lightSleep } }
        hardware := { c.hardware with pmMhz := mhz, pmLightSleep := lightSleep } }
    else c
  (if socCpuPd then { c with hardware := { c.hardware with cpuPdAuto := c.device.ram.cpuPd } } else c,
    outcomes.cpuFreq)

def handleCpufreqSet (socCpuPd : Bool) : Config × Option String :=
  let d := c.device
  let mhz := ((query "mhz").map atoi).getD d.ram.cpuFreqMhz
  if (query "mhz").isSome ∧ mhz ≠ 80 ∧ mhz ≠ 160 ∧ mhz ≠ 240 then
    (c, some "mhz must be 80, 160, or 240")
  else
    let lightSleep := ((query "ls").map fun val => decide (atoi val ≠ 0)).getD d.ram.lightSleep
    let cpuPd := ((query "pdcpu").map fun val => decide (atoi val ≠ 0)).getD d.ram.cpuPd
    let c := { c with device := { d with ram := { d.ram with cpuPd } } }
    if !((query "mhz").isSome || (query "ls").isSome || (query "pdcpu").isSome) then
      (c, some "missing mhz=, ls= or pdcpu=")
    else
      match applyCpuFreqMhz c outcomes socCpuPd mhz lightSleep with
      | (c, false) => (c, some "cpu freq apply failed")
      | (c, true) =>
          let d := { c.device with ram := { c.device.ram with cpuFreqMhz := mhz } }
          let d := d.writeI8 outcomes.toAnswers nvsCpuFreqKey (Int8.ofInt (mhz.tdiv 10))
          let d := d.writeI8 outcomes.toAnswers "cpu_ls" (if lightSleep then 1 else 0)
          ({ c with
             device := d.writeI8 outcomes.toAnswers "cpu_pd" (if d.ram.cpuPd then 1 else 0) }, none)

def handleWifipsSet : Config × Option String :=
  match query "li" with
  | none => (c, some "missing li=")
  | some val =>
      let d := c.device
      let li := atoi val
      if li < 0 ∨ 10 < li then (c, some "li 0..10")
      else if li = d.ram.wifiListenInterval then (c, none)
      else if !outcomes.stores nvsWifiLiKey then (c, some "nvs write failed")
      else
        ({ c with
           device :=
             { ram := { d.ram with wifiListenInterval := li }
               nvs := d.nvs.trySet (outcomes.stores nvsWifiLiKey) nvsWifiLiKey
                 (.i8 (Int8.ofInt li)) }
           hardware :=
             if outcomes.wifiPs then { c.hardware with psMaxModem := decide (0 < li) }
             else c.hardware }, none)

inductive Request
  | setting (post : Post)
  | hostname (query : Query)

def handle (socCpuPd : Bool) : Request → Config × Option String
  | .setting (.txpower query) => handleTxpowerSet c query outcomes
  | .setting (.cpufreq query) => handleCpufreqSet c query outcomes socCpuPd
  | .setting (.wifips query) => handleWifipsSet c query outcomes
  -- the radio of `Ram` is what these three turn
  | .setting (.level query) =>
      ((handleLevelSet c.device query outcomes.toAnswers).map
        (fun device => { c with device }) id)
  | .setting (.advitvl query) =>
      ((handleAdvitvlSet c.device query outcomes.toAnswers).map
        (fun device => { c with device }) id)
  | .setting (.scan query) =>
      ((handleScanSet c.device query outcomes.toAnswers).map
        (fun device => { c with device }) id)
  | .hostname query =>
      ((Hostname.handleHostnameSet c.hostname query outcomes.toAnswers).map
        (fun hostname => { c with hostname }) id)

end Handlers

/-! ## Without the hardware -/

section Device

variable {c : Config} {query : Query} {outcomes : Outcomes}

/-- What a handler does to the device, and what it answers. -/
def onDevice {α : Type} (result : Config × α) : Device × α := (result.1.device, result.2)

theorem setWifiTx_device :
    onDevice (setWifiTx c query outcomes) =
      Settings.setWifiTx c.device query outcomes.toAnswers := by
  unfold setWifiTx Settings.setWifiTx
  cases query "wifi" with
  | none => rfl
  | some val =>
      dsimp only
      repeat' split
      all_goals rfl

theorem setBleTx_device :
    onDevice (setBleTx c query outcomes) = Settings.setBleTx c.device query outcomes.toAnswers := by
  unfold setBleTx Settings.setBleTx
  cases query "ble" with
  | none => rfl
  | some val =>
      dsimp only
      repeat' split
      all_goals rfl

theorem handleTxpowerSet_device :
    onDevice (handleTxpowerSet c query outcomes) =
      Settings.handleTxpowerSet c.device query outcomes.toAnswers := by
  unfold handleTxpowerSet Settings.handleTxpowerSet
  rw [← setWifiTx_device]
  rcases setWifiTx c query outcomes with ⟨c, text | wifiChanged⟩
  · rfl
  · simp only [onDevice]
    rw [← setBleTx_device]
    rcases setBleTx c query outcomes with ⟨c, text | bleChanged⟩
    · rfl
    · simp only [onDevice]
      split <;> rfl

theorem handleCpufreqSet_device (socCpuPd : Bool) :
    onDevice (handleCpufreqSet c query outcomes socCpuPd) =
      Settings.handleCpufreqSet c.device query outcomes.toAnswers := by
  unfold handleCpufreqSet Settings.handleCpufreqSet applyCpuFreqMhz
  dsimp only
  split
  · rfl
  split
  · rfl
  · cases outcomes.cpuFreq <;> cases socCpuPd <;> rfl

theorem handleWifipsSet_device :
    onDevice (handleWifipsSet c query outcomes) =
      Settings.handleWifipsSet c.device query outcomes.toAnswers := by
  unfold handleWifipsSet Settings.handleWifipsSet
  cases query "li" with
  | none => rfl
  | some val =>
      dsimp only
      repeat' split
      all_goals rfl

/-- **The handlers of `Api.Settings`.** On the device the handlers do what those do. -/
theorem handle_settings (c : Config) (outcomes : Outcomes) (socCpuPd : Bool) (post : Post) :
    onDevice (handle c outcomes socCpuPd (.setting post)) =
      Settings.handle c.device post outcomes.toAnswers := by
  cases post with
  | txpower query => exact handleTxpowerSet_device
  | cpufreq query => exact handleCpufreqSet_device socCpuPd
  | wifips query => exact handleWifipsSet_device
  | level query => rfl
  | advitvl query => rfl
  | scan query => rfl

end Device

/-! ## The handlers that check first -/

section Whole

variable {c c' : Config} {d d' : Device} {query : Query} {outcomes : Outcomes} {text : String}

theorem levelSet_error {answers : Answers}
    (error : handleLevelSet d query answers = (d', some text)) : d' = d := by
  unfold handleLevelSet at error
  dsimp only at error
  repeat' split at error
  all_goals
    cases error
    try rfl

theorem scanSet_error {answers : Answers}
    (error : handleScanSet d query answers = (d', some text)) : d' = d := by
  unfold handleScanSet at error
  split at error
  · cases error
    rfl
  · cases error

theorem wifipsSet_error (error : handleWifipsSet c query outcomes = (c', some text)) : c' = c := by
  unfold handleWifipsSet at error
  dsimp only at error
  repeat' split at error
  all_goals
    cases error
    try rfl

end Whole

/-! ## The two that do not -/

section Halves

variable (c : Config) (query : Query) (outcomes : Outcomes)

/-- The part for `wifi=` is valid, new, and succeeds. -/
def WifiTakesEffect : Prop :=
  ∃ val, query "wifi" = some val ∧ c.device.ram.wifiOff = false ∧
    (atoi val = 0 ∧ outcomes.wifiStop = true ∨
      2 ≤ atoi val ∧ atoi val ≤ 21 ∧ atoi val ≠ c.device.ram.wifiTxDbm.toInt ∧
        outcomes.wifiTx = true)

/-- The part for `ble=` is invalid, or fails. -/
def BleRejected : Prop :=
  ∃ val, query "ble" = some val ∧ val ≠ "off" ∧
    (atoi val < -12 ∨ 9 < atoi val ∨ c.device.ram.radio.poweredOff = true ∨
      atoi val ≠ c.device.ram.bleTxDbm.toInt ∧ outcomes.bleTx = false)

/-- The parameters of /cpufreq are valid, and the clock is not set. -/
def FreqFails : Prop :=
  ((query "mhz").isSome ∨ (query "ls").isSome ∨ (query "pdcpu").isSome) ∧
    (∀ val, query "mhz" = some val → atoi val = 80 ∨ atoi val = 160 ∨ atoi val = 240) ∧
    outcomes.cpuFreq = false

/-- `pdcpu` is what it was, in RAM and in the hardware. -/
def PdKept (socCpuPd : Bool) : Prop :=
  (∀ val, query "pdcpu" = some val → decide (atoi val ≠ 0) = c.device.ram.cpuPd) ∧
    (socCpuPd = true → c.hardware.cpuPdAuto = c.device.ram.cpuPd)

/-- A request that changes nothing if it is rejected. -/
def ChangesNothing (socCpuPd : Bool) : Request → Prop
  | .setting (.txpower query) => WifiTakesEffect c query outcomes → ¬ BleRejected c query outcomes
  | .setting (.cpufreq query) => FreqFails query outcomes → PdKept c query socCpuPd
  | _ => True

variable {c query outcomes}

variable (c query outcomes) in
/-- The part for `wifi=` changes RAM exactly if it takes effect. -/
theorem setWifiTx_cases :
    (¬ WifiTakesEffect c query outcomes ∧
        ∃ answer, setWifiTx c query outcomes = (c, answer) ∧ answer ≠ .ok true) ∨
      ∃ c', WifiTakesEffect c query outcomes ∧ setWifiTx c query outcomes = (c', .ok true) ∧
        c' ≠ c ∧ c'.device.ram.radio = c.device.ram.radio ∧
        c'.device.ram.bleTxDbm = c.device.ram.bleTxDbm := by
  unfold setWifiTx WifiTakesEffect
  cases query "wifi" with
  | none =>
      left
      exact ⟨nofun, .ok false, rfl, by simp⟩
  | some val =>
      simp only [Option.some.injEq, exists_eq_left']
      cases off : c.device.ram.wifiOff with
      | true =>
          left
          refine ⟨nofun, ?_⟩
          simp only [if_true]
          split_ifs
          all_goals exact ⟨_, rfl, by simp⟩
      | false =>
          simp only [true_and, Bool.false_eq_true, if_false]
          by_cases zero : atoi val = 0
          · cases stop : outcomes.wifiStop with
            | false =>
                left
                simp [zero]
            | true =>
                right
                simp only [zero, if_true, Bool.not_true, Bool.false_eq_true, if_false]
                refine ⟨_, .inl ⟨trivial, trivial⟩, rfl, ?_, rfl, rfl⟩
                intro same
                have ram := congrArg (fun c => c.device.ram.wifiOff) same
                rw [off] at ram
                cases ram
          · by_cases range : atoi val < 2 ∨ 21 < atoi val
            · left
              rw [if_neg zero, if_pos range]
              refine ⟨?_, .error "wifi 0 or 2..21", rfl, by simp⟩
              rintro (⟨isZero, _⟩ | ⟨low, high, _⟩)
              · exact zero isZero
              · omega
            · rw [if_neg zero, if_neg range]
              by_cases new : atoi val = c.device.ram.wifiTxDbm.toInt
              · left
                refine ⟨?_, .ok false, by simp [new], by simp⟩
                rintro (⟨isZero, _⟩ | ⟨_, _, other, _⟩)
                · exact zero isZero
                · exact other new
              · cases tx : outcomes.wifiTx with
                | false =>
                    left
                    simp [zero, new]
                | true =>
                    right
                    simp only [ne_eq, new, not_false_eq_true, if_true, Bool.not_true,
                      Bool.false_eq_true, if_false]
                    refine ⟨_, .inr ⟨by omega, by omega, trivial, trivial⟩, rfl, ?_, rfl, rfl⟩
                    intro same
                    have ram := congrArg (fun c => c.device.ram.wifiTxDbm.toInt) same
                    have back := toInt_ofInt (n := atoi val) (by omega) (by omega)
                    exact new (back.symm.trans ram)

variable (c query outcomes) in
/-- The part for `ble=` changes nothing if it is rejected. -/
theorem setBleTx_cases :
    (BleRejected c query outcomes ∧ ∃ text, setBleTx c query outcomes = (c, .error text)) ∨
      ¬ BleRejected c query outcomes ∧
        ((∃ c', setBleTx c query outcomes = (c', .ok true)) ∨
          setBleTx c query outcomes = (c, .ok false)) := by
  unfold setBleTx BleRejected
  cases query "ble" with
  | none =>
      right
      exact ⟨nofun, .inr rfl⟩
  | some val =>
      simp only [Option.some.injEq, exists_eq_left']
      by_cases off : val = "off"
      · right
        refine ⟨fun rejected => rejected.1 off, ?_⟩
        rw [if_pos off]
        split
        · exact .inr rfl
        · exact .inl ⟨_, rfl⟩
      · rw [if_neg off]
        by_cases range : atoi val < -12 ∨ 9 < atoi val
        · left
          rw [if_pos range]
          exact ⟨⟨off, by omega⟩, _, rfl⟩
        · rw [if_neg range]
          cases power : c.device.ram.radio.poweredOff with
          | true =>
              left
              exact ⟨⟨off, .inr (.inr (.inl rfl))⟩, _, rfl⟩
          | false =>
              by_cases new : atoi val = c.device.ram.bleTxDbm.toInt
              · right
                refine ⟨?_, .inr (by simp [new])⟩
                rintro ⟨_, low | high | power | ⟨other, _⟩⟩
                · exact range (.inl low)
                · exact range (.inr high)
                · cases power
                · exact other new
              · cases tx : outcomes.bleTx with
                | false =>
                    left
                    exact ⟨⟨off, .inr (.inr (.inr ⟨new, rfl⟩))⟩, "ble tx apply failed", by simp [new]⟩
                | true =>
                    right
                    refine ⟨?_, .inl ⟨_, by simp [new]; rfl⟩⟩
                    rintro ⟨_, low | high | power | ⟨_, failed⟩⟩
                    · exact range (.inl low)
                    · exact range (.inr high)
                    · cases power
                    · cases failed

variable (query outcomes) in
theorem bleRejected_congr {c' : Config} (radio : c'.device.ram.radio = c.device.ram.radio)
    (bleTxDbm : c'.device.ram.bleTxDbm = c.device.ram.bleTxDbm) :
    BleRejected c' query outcomes ↔ BleRejected c query outcomes := by
  unfold BleRejected
  rw [radio, bleTxDbm]

theorem txpowerSet_unchanged_iff :
    ((handleTxpowerSet c query outcomes).2 ≠ none → (handleTxpowerSet c query outcomes).1 = c) ↔
      (WifiTakesEffect c query outcomes → ¬ BleRejected c query outcomes) := by
  unfold handleTxpowerSet
  rcases setWifiTx_cases c query outcomes with
    ⟨idle, answer, wifi, unchanged⟩ | ⟨c', takes, wifi, changed, radio, bleTxDbm⟩
  · refine iff_of_true ?_ fun takes => absurd takes idle
    match answer with
    | .error text => simp [wifi]
    | .ok true => exact absurd rfl unchanged
    | .ok false =>
        rcases setBleTx_cases c query outcomes with
          ⟨_, text, ble⟩ | ⟨_, ⟨c'', ble⟩ | ble⟩
        · simp [wifi, ble]
        · simp [wifi, ble]
        · simp [wifi, ble]
  · have same := bleRejected_congr query outcomes radio bleTxDbm
    rcases setBleTx_cases c' query outcomes with
      ⟨rejected, text, ble⟩ | ⟨accepted, ⟨c'', ble⟩ | ble⟩
    · simp only [wifi, ble, ne_eq, reduceCtorEq, not_false_eq_true, forall_true_left]
      exact iff_of_false changed fun spares => spares takes (same.mp rejected)
    · refine iff_of_true ?_ fun _ rejected => accepted (same.mpr rejected)
      simp [wifi, ble]
    · refine iff_of_true ?_ fun _ rejected => accepted (same.mpr rejected)
      simp [wifi, ble]

/-- If the clock is not set, `pdcpu` is what has changed. -/
theorem cpufreqSet_unchanged_iff (socCpuPd : Bool) :
    ((handleCpufreqSet c query outcomes socCpuPd).2 ≠ none →
        (handleCpufreqSet c query outcomes socCpuPd).1 = c) ↔
      (FreqFails query outcomes → PdKept c query socCpuPd) := by
  unfold handleCpufreqSet
  dsimp only
  split
  · rename_i invalid
    refine iff_of_true (fun _ => rfl) fun fails => ?_
    obtain ⟨given, not80, not160, not240⟩ := invalid
    obtain ⟨val, mhz⟩ := Option.isSome_iff_exists.mp given
    simp only [mhz, Option.map_some, Option.getD_some] at not80 not160 not240
    rcases fails.2.1 val mhz with eq | eq | eq
    · exact absurd eq not80
    · exact absurd eq not160
    · exact absurd eq not240
  rename_i valid
  split
  · rename_i missing
    simp only [Bool.not_eq_eq_eq_not, Bool.not_true, Bool.or_eq_false_iff, Option.isSome_eq_false_iff,
      Option.isNone_iff_eq_none] at missing
    obtain ⟨⟨mhz, ls⟩, pdcpu⟩ := missing
    refine iff_of_true (fun _ => ?_) fun fails => ?_
    · simp [pdcpu]
    · simp [FreqFails, mhz, ls, pdcpu] at fails
  rename_i given
  cases freq : outcomes.cpuFreq with
  | true =>
      refine iff_of_true ?_ fun fails => ?_
      · simp [applyCpuFreqMhz, freq]
      · simp [FreqFails, freq] at fails
  | false =>
      have fails : FreqFails query outcomes := by
        refine ⟨by simpa only [Bool.not_eq_true, Bool.not_eq_false', Bool.or_eq_true, or_assoc] using given,
          ?_, freq⟩
        intro val mhz
        simp only [mhz, Option.isSome_some, Option.map_some, Option.getD_some, true_and] at valid
        omega
      have asked : (∀ val, query "pdcpu" = some val → decide (atoi val ≠ 0) = c.device.ram.cpuPd) ↔
          ((query "pdcpu").map fun val => decide (atoi val ≠ 0)).getD c.device.ram.cpuPd =
            c.device.ram.cpuPd := by
        cases query "pdcpu" <;> simp
      simp only [forall_prop_of_true fails, PdKept, asked]
      generalize ((query "pdcpu").map fun val => decide (atoi val ≠ 0)).getD
        c.device.ram.cpuPd = cpuPd
      simp only [applyCpuFreqMhz, freq, ne_eq, reduceCtorEq, not_false_eq_true, forall_true_left,
        Bool.false_eq_true, if_false]
      constructor
      · intro same
        have ram := congrArg (fun c => c.device.ram.cpuPd) same
        have hardware := congrArg (fun c => c.hardware.cpuPdAuto) same
        cases socCpuPd with
        | false => exact ⟨ram, nofun⟩
        | true => exact ⟨ram, fun _ => hardware.symm.trans ram⟩
      · rintro ⟨rfl, hardware⟩
        cases socCpuPd with
        | false => rfl
        | true =>
            have same : ({ c.hardware with cpuPdAuto := c.device.ram.cpuPd } : Hardware) =
                c.hardware := by
              rw [← hardware rfl]
            simp only [if_true, same]

end Halves

/-! ## Rejected requests -/

/-- **When a rejected setting changes nothing.** In every state, for every request and every
outcome of the calls, an error leaves everything as it was exactly if the request is not one of
two kinds: a /txpower whose part for WiFi takes effect before its part for BLE is rejected, and
a /cpufreq that asks for another `pdcpu` than the present one, with a clock that cannot be set. -/
theorem rejected_unchanged_iff (c : Config) (outcomes : Outcomes) (socCpuPd : Bool)
    (request : Request) :
    ((handle c outcomes socCpuPd request).2 ≠ none →
        (handle c outcomes socCpuPd request).1 = c) ↔
      ChangesNothing c outcomes socCpuPd request := by
  match request with
  | .setting (.txpower query) => exact txpowerSet_unchanged_iff
  | .setting (.cpufreq query) => exact cpufreqSet_unchanged_iff socCpuPd
  | .setting (.wifips query) =>
      refine iff_of_true (fun rejected => ?_) trivial
      obtain ⟨text, error⟩ := Option.ne_none_iff_exists'.mp rejected
      exact wifipsSet_error (Prod.ext rfl error)
  | .setting (.level query) =>
      refine iff_of_true (fun rejected => ?_) trivial
      obtain ⟨text, error⟩ := Option.ne_none_iff_exists'.mp rejected
      exact congrArg (fun device => { c with device }) (levelSet_error (Prod.ext rfl error))
  | .setting (.advitvl query) =>
      refine iff_of_true (fun rejected => ?_) trivial
      obtain ⟨text, error⟩ := Option.ne_none_iff_exists'.mp rejected
      exact congrArg (fun device => { c with device })
        (ReportedInterval.advitvlSet_error (Prod.ext rfl error))
  | .setting (.scan query) =>
      refine iff_of_true (fun rejected => ?_) trivial
      obtain ⟨text, error⟩ := Option.ne_none_iff_exists'.mp rejected
      exact congrArg (fun device => { c with device }) (scanSet_error (Prod.ext rfl error))
  | .hostname query =>
      refine iff_of_true (fun rejected => ?_) trivial
      obtain ⟨text, error⟩ := Option.ne_none_iff_exists'.mp rejected
      exact congrArg (fun hostname => { c with hostname })
        (Hostname.handleHostnameSet_error (Prod.ext rfl error))

/-- A device with the defaults, and what its hardware was told at boot. -/
def booted : Config where
  device := boot (fun _ => none) true true
  hostname := {}
  hardware :=
    { wifiStarted := true, wifiMaxTxPower := 80, blePowerLevel := 9, pmMhz := 240
      pmLightSleep := false, cpuPdAuto := false, psMaxModem := false }

/-- POST /txpower?wifi=10&ble=20 is answered `ble -12..9 or off` and has set WiFi to 10 dBm, in
RAM, in NVS and in the radio; POST /cpufreq?pdcpu=1 with a clock that cannot be set is answered
`cpu freq apply failed` and has changed `pdcpu`. -/
theorem half_a_request :
    (let query : Query := fun key =>
        if key = "wifi" then some "10" else if key = "ble" then some "20" else none
      let after := handle booted {} true (.setting (.txpower query))
      after.2 = some "ble -12..9 or off" ∧ after.1.device.ram.wifiTxDbm = 10 ∧
        getI8 after.1.device.nvs nvsWifiTxKey = some 10 ∧ after.1.hardware.wifiMaxTxPower = 40 ∧
        booted.device.ram.wifiTxDbm = 20) ∧
    (let query : Query := fun key => if key = "pdcpu" then some "1" else none
      let after := handle booted { cpuFreq := false } true (.setting (.cpufreq query))
      after.2 = some "cpu freq apply failed" ∧ after.1.device.ram.cpuPd = true ∧
        after.1.hardware.cpuPdAuto = true ∧ booted.device.ram.cpuPd = false) := by
  decide +kernel

end NimbleProxy.Api.Rejection
