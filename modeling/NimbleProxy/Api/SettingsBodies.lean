/-
# Api.SettingsBodies -- what the GETs of the settings send

`stats.cpp`: each of these handlers prints its setting into a buffer on its own stack, with
one `snprintf`, and sends what has fit. The sizes are chosen by hand. `Report` of
`Api.Settings` has the values alone; here it is the text.

For all but one the longest text fits, whatever the requests and boots were. `scan_get`
has 48 bytes, and one text of 48 characters, so that the terminator takes the place of its
closing brace: a window and an interval of 10000 ms, and no active scan
(`settings_bodies`).
-/
import NimbleProxy.Api.Hostname
import NimbleProxy.Api.Reboot
import NimbleProxy.Theory.CString
import NimbleProxy.Theory.PrintedJson

namespace NimbleProxy.Api.SettingsBodies

open NimbleProxy.Theory BoundedPrint CString
open NimbleProxy.Theory.Json (Plain integer decimal boolText quote memberText more_cons more_nil
  render_obj_cons memberText_num memberText_nat memberText_bool memberText_str length_decimal_le
  lt_length_decimal length_integer_le length_boolText_le parse_taken)
open NimbleProxy.Backend (Radio)
open NimbleProxy.Api.Settings (Query Answers Ram Nvs Post advitvlMs handle validMhz)
open NimbleProxy.Api.Hostname (isValidHostname applyHostnameFromNvs handleHostnameSet defaultHostname
  isHostnameChar hostnameMax)

set_option autoImplicit false

/-! ## The formats -/

section Formats

variable (ram : Ram)

def levelText : List UInt8 :=
  ascii "\x7b\"nimble\":" ++ (integer ram.nimbleLevel ++ ascii "\x7d")

def txpowerText : List UInt8 :=
  ascii "\x7b\"wifi\":" ++ (integer (if ram.wifiOff then 0 else ram.wifiTxDbm.toInt) ++
    (ascii ",\"ble\":" ++ (integer ram.bleTxDbm.toInt ++ (ascii ",\"ble_off\":" ++
      (boolText ram.radio.poweredOff ++ ascii "\x7d")))))

def cpufreqText : List UInt8 :=
  ascii "\x7b\"mhz\":" ++ (integer ram.cpuFreqMhz ++ (ascii ",\"ls\":" ++ (boolText ram.lightSleep ++
    (ascii ",\"pdcpu\":" ++ (boolText ram.cpuPd ++ ascii "\x7d")))))

def wifipsText : List UInt8 :=
  ascii "\x7b\"li\":" ++ (integer ram.wifiListenInterval ++ ascii "\x7d")

def advitvlText : List UInt8 :=
  ascii "\x7b\"ms\":" ++ (integer (advitvlMs ram.radio) ++ ascii "\x7d")

def hostnameText (hostname : String) : List UInt8 :=
  ascii "\x7b\"hostname\":\"" ++ (ascii hostname ++ (ascii "\",\"default\":\"" ++
    (ascii defaultHostname ++ ascii "\"\x7d")))

def scanText : List UInt8 :=
  ascii "\x7b\"window\":" ++ (decimal ram.radio.windowMs.toNat ++ (ascii ",\"interval\":" ++
    (decimal ram.radio.intervalMs.toNat ++ (ascii ",\"active\":" ++ (boolText ram.radio.activeScan ++
      ascii "\x7d")))))

end Formats

/-! ## The builders -/

section Builders

variable (cap : Nat) (ram : Ram)

def buildLevelJson : List UInt8 := taken cap (levelText ram)

def buildTxpowerJson : List UInt8 := taken cap (txpowerText ram)

def buildCpufreqJson : List UInt8 := taken cap (cpufreqText ram)

def buildWifipsJson : List UInt8 := taken cap (wifipsText ram)

def buildAdvitvlJson : List UInt8 := taken cap (advitvlText ram)

def buildHostnameJson (hostname : String) : List UInt8 := taken cap (hostnameText hostname)

def buildScanJson : List UInt8 := taken cap (scanText ram)

end Builders

/-! ## The device -/

structure Device where
  settings : Settings.Device
  name : Hostname.Device

def boot (nvs : Nvs) (stored : Option String) (scanStart advStart : Bool) : Device where
  settings := Settings.boot nvs scanStart advStart
  name := { hostname := applyHostnameFromNvs stored, stored }

inductive Action
  | post (post : Post) (answers : Answers)
  | hostnamePost (query : Query) (answers : Answers)
  | reboot (scanStart advStart : Bool)

def step (d : Device) : Action → Device
  | .post post answers => { d with settings := (handle d.settings post answers).1 }
  | .hostnamePost query answers => { d with name := (handleHostnameSet d.name query answers).1 }
  | .reboot scanStart advStart => boot d.settings.nvs d.name.stored scanStart advStart

def run (d : Device) (actions : List Action) : Device := actions.foldl step d

inductive Get
  | level | txpower | cpufreq | wifips | advitvl | hostname | scan
  deriving DecidableEq

/-- What `level_get` and its siblings send. -/
def Get.body (d : Device) : Get → List UInt8
  | .level => buildLevelJson 32 d.settings.ram
  | .txpower => buildTxpowerJson 48 d.settings.ram
  | .cpufreq => buildCpufreqJson 64 d.settings.ram
  | .wifips => buildWifipsJson 32 d.settings.ram
  | .advitvl => buildAdvitvlJson 32 d.settings.ram
  | .hostname => buildHostnameJson 96 d.name.hostname
  | .scan => buildScanJson 48 d.settings.ram

/-- The values of the settings, under their keys. -/
def Get.members (d : Device) : Get → List (List UInt8 × Json)
  | .level => [(ascii "nimble", .num d.settings.ram.nimbleLevel)]
  | .txpower =>
      [(ascii "wifi", .num (if d.settings.ram.wifiOff then 0 else d.settings.ram.wifiTxDbm.toInt)),
        (ascii "ble", .num d.settings.ram.bleTxDbm.toInt),
        (ascii "ble_off", .bool d.settings.ram.radio.poweredOff)]
  | .cpufreq =>
      [(ascii "mhz", .num d.settings.ram.cpuFreqMhz), (ascii "ls", .bool d.settings.ram.lightSleep),
        (ascii "pdcpu", .bool d.settings.ram.cpuPd)]
  | .wifips => [(ascii "li", .num d.settings.ram.wifiListenInterval)]
  | .advitvl => [(ascii "ms", .num (advitvlMs d.settings.ram.radio))]
  | .hostname =>
      [(ascii "hostname", .str (ascii d.name.hostname)), (ascii "default", .str (ascii defaultHostname))]
  | .scan =>
      [(ascii "window", .num d.settings.ram.radio.windowMs.toNat),
        (ascii "interval", .num d.settings.ram.radio.intervalMs.toNat),
        (ascii "active", .bool d.settings.ram.radio.activeScan)]

/-! ## What holds after every run -/

/-- A duty cycle that `handle_scan_set` and the loader let through. -/
def ValidDuty (radio : Radio) : Prop :=
  radio.windowMs.toNat ≤ radio.intervalMs.toNat ∧ radio.intervalMs.toNat ≤ 10000

/-- What the handlers and the loaders let through. -/
structure ValidRam (ram : Ram) : Prop where
  level : -128 ≤ ram.nimbleLevel ∧ ram.nimbleLevel < 128
  mhz : validMhz ram.cpuFreqMhz
  li : 0 ≤ ram.wifiListenInterval ∧ ram.wifiListenInterval ≤ 10
  duty : ValidDuty ram.radio

structure Valid (d : Device) : Prop where
  ram : ValidRam d.settings.ram
  hostname : isValidHostname d.name.hostname = true

section Radio

variable {radio : Radio}

theorem ValidDuty.setAdvertisingEnabled (valid : ValidDuty radio) (on ok : Bool) :
    ValidDuty (radio.setAdvertisingEnabled on ok) := by
  obtain ⟨_, done⟩ := Radio.setAdvertisingEnabled_eq (r := radio) on ok
  rw [done]
  exact valid

theorem ValidDuty.setAdvIntervalMs (valid : ValidDuty radio) (ms : UInt16) (ok : Bool) :
    ValidDuty (radio.setAdvIntervalMs ms ok) := by
  obtain ⟨_, done⟩ := Radio.setAdvIntervalMs_eq (r := radio) ms ok
  rw [done]
  exact valid

theorem ValidDuty.powerOff (valid : ValidDuty radio) : ValidDuty radio.powerOff := by
  unfold Radio.powerOff
  split <;> exact valid

theorem ValidDuty.setActive (valid : ValidDuty radio) (on ok : Bool) :
    ValidDuty (radio.setActive on ok) := by
  unfold Radio.setActive
  split
  · exact valid
  · obtain ⟨_, done⟩ := Radio.restartScan_eq (r := { radio with activeScan := on }) ok
    rw [done]
    exact valid

theorem ValidDuty.setDuty (valid : ValidDuty radio) {windowMs intervalMs : UInt16}
    (order : windowMs.toNat ≤ intervalMs.toNat) (bound : intervalMs.toNat ≤ 10000) (ok : Bool) :
    ValidDuty (radio.setDuty windowMs intervalMs ok) := by
  unfold Radio.setDuty
  split
  · exact valid
  · obtain ⟨_, done⟩ := Radio.restartScan_eq (r := { radio with windowMs, intervalMs }) ok
    rw [done]
    exact ⟨order, bound⟩

end Radio

section Handlers

variable {d : Settings.Device} {answers : Answers}

theorem validRam_boot (nvs : Nvs) (scanStart advStart : Bool) :
    ValidRam (Settings.boot nvs scanStart advStart).ram := by
  have saved := (Settings.booted nvs scanStart advStart).saved
  have same (e : Settings.Endpoint) : Settings.view e (Settings.boot nvs scanStart advStart).ram =
      Settings.read e nvs := saved e
  have level := same .level
  have mhz := congrArg Prod.fst (same .cpufreq)
  have li := same .wifips
  have window := congrArg Prod.fst (same .scan)
  have interval := congrArg (fun shown => shown.2.1) (same .scan)
  simp only [Settings.view, Settings.read] at level mhz li window interval
  refine ⟨?_, ?_, ?_, ?_⟩
  · rw [level]
    cases Settings.getI8 nvs Settings.nvsLevelKey with
    | none => decide
    | some stored => exact ⟨Int8.le_toInt stored, Int8.toInt_lt stored⟩
  · rw [mhz]
    exact Settings.validMhz_storedMhz nvs
  · rw [li, Settings.storedLi]
    split
    · rename_i stored _
      split
      · rename_i range
        have low := Int8.le_iff_toInt_le.mp range.1
        have high := Int8.le_iff_toInt_le.mp range.2
        exact ⟨low, high⟩
      · decide
    · decide
  · unfold ValidDuty
    rw [window, interval]
    cases duty : Settings.storedDuty nvs with
    | none => decide
    | some stored =>
        unfold Settings.storedDuty at duty
        split at duty
        · split at duty
          · rename_i range
            cases duty
            exact ⟨UInt16.le_iff_toNat_le.mp range.2.1, UInt16.le_iff_toNat_le.mp range.2.2⟩
          · cases duty
        · cases duty

variable (answers) in
theorem validRam_setWifiTx (valid : ValidRam d.ram) (query : Query) :
    ValidRam (Settings.setWifiTx d query answers).1.ram := by
  unfold Settings.setWifiTx
  split
  · exact valid
  dsimp only
  repeat' split
  all_goals exact ⟨valid.level, valid.mhz, valid.li, valid.duty⟩

variable (answers) in
theorem validRam_setBleTx (valid : ValidRam d.ram) (query : Query) :
    ValidRam (Settings.setBleTx d query answers).1.ram := by
  unfold Settings.setBleTx
  split
  · exact valid
  split
  · split
    · exact valid
    · exact ⟨valid.level, valid.mhz, valid.li, valid.duty.powerOff⟩
  dsimp only
  repeat' split
  all_goals exact ⟨valid.level, valid.mhz, valid.li, valid.duty⟩

theorem validRam_scanSet (valid : ValidRam d.ram) (query : Query) :
    ValidRam (Settings.handleScanSet d query answers).1.ram := by
  unfold Settings.handleScanSet
  split
  · exact valid
  · rename_i request parsed
    have first : ValidRam
        ((request.duty.map fun duty => Settings.applyDuty d duty answers).getD d).ram := by
      cases given : request.duty with
      | none => exact valid
      | some duty =>
          have range := Settings.parseScan_ok parsed given
          have window : (UInt16.ofNat duty.1.toNat).toNat = duty.1.toNat :=
            UInt16.toNat_ofNat_of_lt' (by simp only [UInt16.size]; omega)
          have interval : (UInt16.ofNat duty.2.toNat).toNat = duty.2.toNat :=
            UInt16.toNat_ofNat_of_lt' (by simp only [UInt16.size]; omega)
          exact ⟨valid.level, valid.mhz, valid.li, valid.duty.setDuty (by omega) (by omega) _⟩
    dsimp only
    cases request.active with
    | none => exact first
    | some active => exact ⟨first.level, first.mhz, first.li, first.duty.setActive _ _⟩

theorem validRam_handle (valid : ValidRam d.ram) (post : Post) :
    ValidRam (handle d post answers).1.ram := by
  cases post with
  | level query =>
      simp only [handle, Settings.handleLevelSet]
      split
      · exact valid
      split
      · exact valid
      rename_i range
      split
      · exact valid
      · exact ⟨by dsimp only; omega, valid.mhz, valid.li, valid.duty⟩
  | txpower query =>
      have wifi := validRam_setWifiTx answers valid query
      have ble := validRam_setBleTx answers wifi query
      simp only [handle, Settings.handleTxpowerSet]
      split
      · rename_i first
        rw [first] at wifi
        exact wifi
      · rename_i first
        rw [first] at ble
        split
        · rename_i second
          rw [second] at ble
          exact ble
        · rename_i second
          rw [second] at ble
          split <;> exact ble
  | cpufreq query =>
      simp only [handle, Settings.handleCpufreqSet]
      split
      · exact valid
      rename_i accepted
      split
      · exact ⟨valid.level, valid.mhz, valid.li, valid.duty⟩
      split
      · exact ⟨valid.level, valid.mhz, valid.li, valid.duty⟩
      · refine ⟨valid.level, ?_, valid.li, valid.duty⟩
        dsimp only [Settings.Device.writeI8]
        cases given : query "mhz" with
        | none => exact valid.mhz
        | some val =>
            simp only [given, Option.isSome_some, true_and, Option.map_some, Option.getD_some]
              at accepted ⊢
            unfold validMhz
            omega
  | advitvl query =>
      simp only [handle, Settings.handleAdvitvlSet]
      repeat' split
      all_goals first
        | exact valid
        | exact ⟨valid.level, valid.mhz, valid.li, valid.duty.setAdvertisingEnabled _ _⟩
        | exact ⟨valid.level, valid.mhz, valid.li,
            (valid.duty.setAdvIntervalMs _ _).setAdvertisingEnabled _ _⟩
  | wifips query =>
      simp only [handle, Settings.handleWifipsSet]
      split
      · exact valid
      split
      · exact valid
      rename_i range
      split
      · exact valid
      split
      · exact valid
      · exact ⟨valid.level, valid.mhz, by dsimp only; omega, valid.duty⟩
  | scan query => exact validRam_scanSet valid query

end Handlers

theorem valid_boot (nvs : Nvs) (stored : Option String) (scanStart advStart : Bool) :
    Valid (boot nvs stored scanStart advStart) := by
  refine ⟨validRam_boot nvs scanStart advStart, ?_⟩
  have default_ : isValidHostname defaultHostname = true := by decide
  cases stored with
  | none => exact default_
  | some name =>
      simp only [boot, applyHostnameFromNvs]
      split
      · assumption
      · exact default_

theorem valid_step {d : Device} (valid : Valid d) (action : Action) : Valid (step d action) := by
  cases action with
  | post post answers => exact ⟨validRam_handle valid.ram post, valid.hostname⟩
  | reboot scanStart advStart => exact valid_boot _ _ _ _
  | hostnamePost query answers =>
      -- the name in use changes at a boot only
      have same : (handleHostnameSet d.name query answers).1.hostname = d.name.hostname := by
        unfold handleHostnameSet
        repeat' split
        all_goals rfl
      exact ⟨valid.ram, same ▸ valid.hostname⟩

theorem valid_run {d : Device} (valid : Valid d) (actions : List Action) : Valid (run d actions) := by
  induction actions generalizing d with
  | nil => exact valid
  | cons action rest ih => exact ih (valid_step valid action)

/-! ## Bodies -/

theorem plain_hostnameChar {c : Char} (valid : isHostnameChar c = true) :
    UInt8.ofNat c.toNat ≠ 34 ∧ UInt8.ofNat c.toNat ≠ 92 ∧ ¬ UInt8.ofNat c.toNat < 32 := by
  have range : c.toNat < 256 ∧ c.toNat ≠ 34 ∧ c.toNat ≠ 92 ∧ 32 ≤ c.toNat := by
    unfold isHostnameChar at valid
    delta Char.isAlphanum Char.isAlpha Char.isUpper Char.isLower Char.isDigit at valid
    simp only [Bool.or_eq_true, Bool.and_eq_true, decide_eq_true_eq, beq_iff_eq, ge_iff_le,
      UInt32.le_iff_toNat_le] at valid
    have value : c.val.toNat = c.toNat := rfl
    have bounds : 'A'.val.toNat = 65 ∧ 'Z'.val.toNat = 90 ∧ 'a'.val.toNat = 97 ∧ 'z'.val.toNat = 122 ∧
        '0'.val.toNat = 48 ∧ '9'.val.toNat = 57 := by decide
    simp only [value, bounds] at valid
    rcases valid with ((alnum | rfl) | rfl) | rfl
    · omega
    all_goals decide
  have byte : (UInt8.ofNat c.toNat).toNat = c.toNat := UInt8.toNat_ofNat_of_lt' range.1
  refine ⟨fun same => ?_, fun same => ?_, fun low => ?_⟩
  · rw [same] at byte
    exact range.2.1 byte.symm
  · rw [same] at byte
    exact range.2.2.1 byte.symm
  · have low' := UInt8.lt_iff_toNat_lt.mp low
    rw [byte] at low'
    exact absurd low' (Nat.not_lt.mpr range.2.2.2)

/-- A valid name is printed as it is. -/
theorem plain_hostname {name : String} (valid : isValidHostname name = true) :
    Plain (ascii name) ∧ (ascii name).length ≤ 30 := by
  unfold isValidHostname at valid
  dsimp only at valid
  split at valid
  · cases valid
  rename_i size
  split at valid
  · cases valid
  split at valid
  · cases valid
  rw [List.all_eq_true] at valid
  refine ⟨fun c mem => ?_, ?_⟩
  · obtain ⟨char, own, rfl⟩ := List.mem_map.mp mem
    exact plain_hostnameChar (valid char own)
  · rw [ascii, List.length_map]
    exact Nat.le_of_not_lt (not_or.mp size).2

/-- The size of the buffer on the stack. -/
def Get.capacity : Get → Nat
  | .level | .wifips | .advitvl => 32
  | .txpower | .scan => 48
  | .cpufreq => 64
  | .hostname => 96

def Get.text (d : Device) : Get → List UInt8
  | .level => levelText d.settings.ram
  | .txpower => txpowerText d.settings.ram
  | .cpufreq => cpufreqText d.settings.ram
  | .wifips => wifipsText d.settings.ram
  | .advitvl => advitvlText d.settings.ram
  | .hostname => hostnameText d.name.hostname
  | .scan => scanText d.settings.ram

theorem body_eq (d : Device) (get : Get) : get.body d = taken get.capacity (get.text d) := by
  cases get <;> rfl

section Texts

variable {first second third key key₂ key₃ : List UInt8}

theorem one_member (opens : first = 123 :: (quote key ++ [58])) (v : Json) :
    first ++ (v.render ++ ascii "\x7d") = (Json.obj [(key, v)]).render := by
  have last : ascii "\x7d" = [125] := rfl
  rw [opens, render_obj_cons, memberText, more_nil, last]
  simp

theorem three_members (opens : first = 123 :: (quote key ++ [58]))
    (opens₂ : second = 44 :: (quote key₂ ++ [58])) (opens₃ : third = 44 :: (quote key₃ ++ [58]))
    (v v₂ v₃ : Json) :
    first ++ (v.render ++ (second ++ (v₂.render ++ (third ++ (v₃.render ++ ascii "\x7d"))))) =
      (Json.obj [(key, v), (key₂, v₂), (key₃, v₃)]).render := by
  have last : ascii "\x7d" = [125] := rfl
  rw [opens, opens₂, opens₃, render_obj_cons, more_cons, more_cons, more_nil, memberText, memberText,
    memberText, last]
  simp

end Texts

/-- Every text is that of an object with the values. -/
theorem text_eq {d : Device} (valid : Valid d) (get : Get) :
    get.text d = (Json.obj (get.members d)).render := by
  have num (n : Int) : integer n = (Json.num n).render := by rw [Json.render]
  have nat (n : Nat) : decimal n = (Json.num n).render := by rw [Json.render]; rfl
  have bool (b : Bool) : boolText b = (Json.bool b).render := by rw [Json.render]
  cases get with
  | level =>
      rw [Get.text, levelText, num]
      exact one_member (by decide) _
  | wifips =>
      rw [Get.text, wifipsText, num]
      exact one_member (by decide) _
  | advitvl =>
      rw [Get.text, advitvlText, num]
      exact one_member (by decide) _
  | txpower =>
      rw [Get.text, txpowerText, num, num, bool]
      exact three_members (by decide) (by decide) (by decide) _ _ _
  | cpufreq =>
      rw [Get.text, cpufreqText, num, bool, bool]
      exact three_members (by decide) (by decide) (by decide) _ _ _
  | scan =>
      rw [Get.text, scanText, nat, nat, bool]
      exact three_members (by decide) (by decide) (by decide) _ _ _
  | hostname =>
      have name := (plain_hostname valid.hostname).1
      have default_ : Plain (ascii defaultHostname) := by decide
      have front : ascii "\x7b\"hostname\":\"" = 123 :: (quote (ascii "hostname") ++ [58, 34]) := by
        decide
      have between : ascii "\",\"default\":\"" = 34 :: 44 :: (quote (ascii "default") ++ [58, 34]) := by
        decide
      have last : ascii "\"\x7d" = [34, 125] := rfl
      rw [Get.text, hostnameText, Get.members, render_obj_cons, more_cons, more_nil, memberText_str,
        memberText_str, name.quote, default_.quote, front, between, last]
      simp

theorem advitvlMs_range (radio : Radio) : -1 ≤ advitvlMs radio ∧ advitvlMs radio ≤ 40960 := by
  have units := radio.advIntervalUnits.toNat_lt
  unfold advitvlMs
  repeat' split
  all_goals omega

theorem length_scanText_lt {ram : Ram} (valid : ValidDuty ram.radio) :
    (scanText ram).length < 48 ↔ ¬ (ram.radio.windowMs = 10000 ∧ ram.radio.activeScan = false) := by
  obtain ⟨order, bound⟩ := valid
  have window : (decimal ram.radio.windowMs.toNat).length ≤ 5 := length_decimal_le (by decide) (by omega)
  have interval : (decimal ram.radio.intervalMs.toNat).length ≤ 5 :=
    length_decimal_le (by decide) (by omega)
  have words : (ascii "\x7b\"window\":").length = 10 ∧ (ascii ",\"interval\":").length = 12 ∧
      (ascii ",\"active\":").length = 10 ∧ (ascii "\x7d").length = 1 := by decide
  have total : (scanText ram).length = 33 + (decimal ram.radio.windowMs.toNat).length +
      (decimal ram.radio.intervalMs.toNat).length + (boolText ram.radio.activeScan).length := by
    simp only [scanText, List.length_append, words]
    omega
  cases active : ram.radio.activeScan with
  | true =>
      have word : (boolText true).length = 4 := rfl
      rw [active, word] at total
      exact iff_of_true (by omega) nofun
  | false =>
      have word : (boolText false).length = 5 := rfl
      rw [active, word] at total
      by_cases longest : ram.radio.windowMs = 10000
      · have value : ram.radio.windowMs.toNat = 10000 := congrArg UInt16.toNat longest
        have five := lt_length_decimal (k := 4) (n := ram.radio.windowMs.toNat) (by omega)
        have five' := lt_length_decimal (k := 4) (n := ram.radio.intervalMs.toNat) (by omega)
        exact iff_of_false (by omega) fun other => other ⟨longest, rfl⟩
      · have value : ram.radio.windowMs.toNat ≠ 10000 := fun same => longest (UInt16.toNat_inj.mp same)
        have four : (decimal ram.radio.windowMs.toNat).length ≤ 4 :=
          length_decimal_le (by decide) (by omega)
        exact iff_of_true (by omega) fun same => longest same.1

/-- **Every text but one fits**, with its terminator. -/
theorem length_text_lt {d : Device} (valid : Valid d) (get : Get) :
    (get.text d).length < get.capacity ↔ ¬ (get = .scan ∧
      d.settings.ram.radio.windowMs = 10000 ∧ d.settings.ram.radio.activeScan = false) := by
  have bool := length_boolText_le
  have last : (ascii "\x7d").length = 1 := rfl
  have int8 (n : Int8) : (integer n.toInt).length ≤ 4 := by
    have low := Int8.le_toInt n
    have high := Int8.toInt_lt n
    exact length_integer_le (k := 3) (by decide) (by omega) (by omega)
  cases get with
  | level =>
      have level := valid.ram.level
      have number : (integer d.settings.ram.nimbleLevel).length ≤ 4 :=
        length_integer_le (k := 3) (by decide) (by omega) (by omega)
      have word : (ascii "\x7b\"nimble\":").length = 10 := by decide
      refine iff_of_true ?_ nofun
      simp only [Get.text, levelText, List.length_append, word, last, Get.capacity]
      omega
  | txpower =>
      have wifi : (integer
          (if d.settings.ram.wifiOff then 0 else d.settings.ram.wifiTxDbm.toInt)).length ≤ 4 := by
        split
        · decide
        · exact int8 _
      have ble := int8 d.settings.ram.bleTxDbm
      have off := bool d.settings.ram.radio.poweredOff
      have words : (ascii "\x7b\"wifi\":").length = 8 ∧ (ascii ",\"ble\":").length = 7 ∧
          (ascii ",\"ble_off\":").length = 11 := by decide
      refine iff_of_true ?_ nofun
      simp only [Get.text, txpowerText, List.length_append, words, last, Get.capacity]
      omega
  | cpufreq =>
      have number : (integer d.settings.ram.cpuFreqMhz).length ≤ 4 := by
        rcases valid.ram.mhz with mhz | mhz | mhz <;> rw [mhz] <;> decide
      have ls := bool d.settings.ram.lightSleep
      have pd := bool d.settings.ram.cpuPd
      have words : (ascii "\x7b\"mhz\":").length = 7 ∧ (ascii ",\"ls\":").length = 6 ∧
          (ascii ",\"pdcpu\":").length = 9 := by decide
      refine iff_of_true ?_ nofun
      simp only [Get.text, cpufreqText, List.length_append, words, last, Get.capacity]
      omega
  | wifips =>
      have li := valid.ram.li
      have number : (integer d.settings.ram.wifiListenInterval).length ≤ 3 :=
        length_integer_le (k := 2) (by decide) (by omega) (by omega)
      have word : (ascii "\x7b\"li\":").length = 6 := by decide
      refine iff_of_true ?_ nofun
      simp only [Get.text, wifipsText, List.length_append, word, last, Get.capacity]
      omega
  | advitvl =>
      have range := advitvlMs_range d.settings.ram.radio
      have number : (integer (advitvlMs d.settings.ram.radio)).length ≤ 6 :=
        length_integer_le (k := 5) (by decide) (by omega) (by omega)
      have word : (ascii "\x7b\"ms\":").length = 6 := by decide
      refine iff_of_true ?_ nofun
      simp only [Get.text, advitvlText, List.length_append, word, last, Get.capacity]
      omega
  | hostname =>
      have name := (plain_hostname valid.hostname).2
      have words : (ascii "\x7b\"hostname\":\"").length = 13 ∧ (ascii "\",\"default\":\"").length = 13 ∧
          (ascii defaultHostname).length = 12 ∧ (ascii "\"\x7d").length = 2 := by decide
      refine iff_of_true ?_ nofun
      simp only [Get.text, hostnameText, List.length_append, words, Get.capacity]
      omega
  | scan =>
      simp only [true_and]
      exact length_scanText_lt valid.ram.duty

/-! ## What is sent -/

/-- **What the GETs send.** After any boots and requests, with anything in NVS at first and any
answers of NVS and the hardware, the body of a GET is the object with the values of its settings
exactly if it is not the one of /scan while the window is 10000 ms long and the scan passive. -/
theorem settings_bodies (nvs : Nvs) (stored : Option String) (scanStart advStart : Bool)
    (actions : List Action) (get : Get) :
    let d := run (boot nvs stored scanStart advStart) actions
    Json.parse (get.body d) = some (.obj (get.members d)) ↔
      ¬ (get = .scan ∧ d.settings.ram.radio.windowMs = 10000 ∧
        d.settings.ram.radio.activeScan = false) := by
  have valid := valid_run (valid_boot nvs stored scanStart advStart) actions
  dsimp only
  rw [body_eq, text_eq valid, parse_taken, ← text_eq valid, length_text_lt valid]

/-- POST /scan?window=10000&interval=10000&active=0 on a new device, which is answered ok. -/
def longestScan : Post :=
  .scan fun key =>
    if key = "active" then some "0"
    else if key = "window" ∨ key = "interval" then some "10000" else none

/-- After it the body of GET /scan is no JSON text. -/
theorem scan_body_cut :
    let new := boot (fun _ => none) none true true
    (handle new.settings longestScan {}).2 = none ∧
      Json.parse (Get.scan.body (step new (.post longestScan {}))) = none := by
  decide +kernel

end NimbleProxy.Api.SettingsBodies
