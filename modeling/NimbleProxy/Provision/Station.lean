/-
# Provision.Station -- the network that is joined after a restart

The credentials of the station are written in two places, by a line of the console while the
device starts (`serial_provision.cpp`) and by the form of the setup page (`wifi_sta.cpp`), and
read in a third, `start_and_wait_for_ip`, after the restart that follows. What reads takes the
name and the password one by one, and falls back to the credentials of the build.

Both writers check what they store, so that what is read fits the buffers and the fields of
`wifi_config_t`, whatever NVS has answered in between: a name and a password of different
requests, if it comes to that, are both valid. Without such a failure the station has the
credentials that were accepted last (`station_credentials`).

NVS may refuse to write, and a reset between the two writes of a pair counts as such a refusal;
reads do not fail, and at first NVS has credentials that can be ones, or none (`Stored`).

The setup page is entered when there is no name, or after a wait without an address. The other
settings of the station, `listen_interval` among them, are left out.
-/
import NimbleProxy.Theory.ActionSystem
import NimbleProxy.Provision.EndToEnd
import NimbleProxy.Provision.SetupForm

namespace NimbleProxy.Provision.Station

open NimbleProxy.Theory KeyValue CString ActionSystem
open SerialProvision
open WebFlasher (Credentials)
open SetupForm (ValidSsid ValidPassword badPassword apWifiPost credWrites formGet badPassword_iff)

set_option autoImplicit false

/-! ## What is read -/

/-- `nvs_get_str` into a buffer of `cap` bytes. -/
def getStr (nvs : Nvs) (key : Key) (cap : Nat) : Option (List UInt8) :=
  match nvs key with
  | some (.str s) => if s.length < cap then some s else none
  | _ => none

/-- `read_creds_from_nvs`, into buffers of 33 and 65 bytes. -/
def readCreds (nvs : Nvs) : Option Credentials :=
  match getStr nvs .wifiSsid 33 with
  | none | some [] => none
  | some ssid => some ⟨ssid, (getStr nvs .wifiPsk 65).getD []⟩

/-- The station's part of `wifi_config_t`. -/
structure Sta where
  ssid : List UInt8
  password : List UInt8
  /-- `threshold.authmode` is `WIFI_AUTH_OPEN`, else `WIFI_AUTH_WPA2_PSK` -/
  isOpen : Bool
  deriving DecidableEq

def Sta.of (c : Credentials) : Sta := ⟨c.ssid, c.psk, c.psk = []⟩

/-- `WIFI_SSID` and `WIFI_PASSWORD`, as they are copied. -/
def fromHeader (header : Credentials) : Credentials := ⟨header.ssid.take 32, header.psk.take 64⟩

/-- `start_and_wait_for_ip` up to the configuration; `none` if the setup page is entered. -/
def start (fallback : Bool) (header : Credentials) (nvs : Nvs) : Option Sta :=
  let c := (readCreds nvs).getD (fromHeader header)
  if fallback = true ∧ c.ssid = [] then none else some (Sta.of c)

/-! ## The namespace `wifi` -/

def Value.str? : Value → Option (List UInt8)
  | .str s => some s
  | .u8 _ => none

def wifiNamespace (nvs : Nvs) : SetupForm.Nvs := fun key =>
  if key = "ssid" then (nvs .wifiSsid).bind Value.str?
  else if key = "psk" then (nvs .wifiPsk).bind Value.str?
  else none

def withWifi (wifi : SetupForm.Nvs) (nvs : Nvs) : Nvs
  | .wifiSsid => (wifi "ssid").map .str
  | .wifiPsk => (wifi "psk").map .str
  | key => nvs key

/-- `ap_wifi_post` on the whole of NVS. -/
def wifiPost (nvs : Nvs) (arrivals : List SetupForm.Recv) (outcome : Outcome String) :
    Nvs × Option String :=
  let (wifi, error) := apWifiPost (wifiNamespace nvs) arrivals outcome
  (withWifi wifi nvs, error)

/-! ## Both writers check -/

def erased : Nvs := fun _ => none

/-- What can be stored. -/
def Valid (c : Credentials) : Prop := ValidSsid c.ssid ∧ ValidPassword c.psk

/-- Whatever the token, the last byte of the buffer is a terminator. -/
theorem decodeB64Token_last (token : List UInt8) (maxLen : Nat) :
    (decodeB64Token token zeros (maxLen + 1) maxLen).1 maxLen = 0 := by
  have limit : min maxLen (maxLen + 1 - 1) = maxLen := by omega
  have within : Within (min maxLen (maxLen + 1 - 1)) ⟨zeros, 0⟩
      (decodeGroups (maxLen + 1) maxLen ⟨zeros, 0⟩ token).1 :=
    decodeGroups_within token ⟨zeros, 0⟩ (Nat.zero_le _)
  rw [limit] at within
  unfold decodeB64Token
  split
  · show zeros.store 0 [0] maxLen = 0
    rcases Nat.eq_zero_or_pos maxLen with rfl | some_
    · rfl
    · exact Memory.store_beyond (by rw [List.length_singleton]; omega)
  · split
    · rfl
    · split
      · rename_i after decoded
        rw [decoded] at within
        exact within.frame maxLen le_rfl
      · rename_i after decoded
        rw [decoded] at within
        show after.mem.store after.len [0] maxLen = 0
        have len : after.len ≤ maxLen := within.len
        rcases Nat.lt_or_eq_of_le len with less | last
        · refine (Memory.store_beyond ?_).trans (within.frame maxLen le_rfl)
          rw [List.length_singleton]
          omega
        · rw [← last]
          simp [Memory.store]

theorem length_read {mem : Memory} {n : Nat} (terminated : mem n = 0) :
    (read mem 0 (n + 1)).length ≤ n := by
  have last : mem.load (0 + n) 1 = [0] := by simp [Memory.load, terminated]
  unfold CString.read
  rw [Memory.load_append, last]
  by_cases inside : 0 ∈ mem.load 0 n
  · rw [upToNul_append_of_mem inside]
    exact (List.takeWhile_prefix _).length_le.trans (Memory.length_load mem 0 n).le
  · rw [upToNul_append inside]
    exact (Memory.length_load mem 0 n).le

/-- What a line that asks for credentials holds. -/
theorem handleWifiLine_cases (line : List UInt8) :
    (∃ result : LineResult, result.reboot = false ∧
      ∀ answers nvs, handleWifiLine answers nvs line = (nvs, result)) ∨
    ∃ c, Valid c ∧ ∀ answers nvs, handleWifiLine answers nvs line =
      match storeWifiCreds answers nvs c.ssid c.psk with
      | (nvs, false) => (nvs, rejected)
      | (nvs, true) => (nvs, { handled := true, reboot := true, ack := some "NBP-PROV-OK\n" }) := by
  by_cases own : ascii "NBP-PROV1 " <+: line
  · cases isCut : cut 32 (skip 32 (line.drop (ascii "NBP-PROV1 ").length)) with
    | none =>
        refine .inl ⟨rejected, rfl, fun answers nvs => ?_⟩
        simp only [handleWifiLine, own, isCut, not_true_eq_false, if_false]
    | some parts =>
        have ssidShort := length_read (decodeB64Token_last parts.1 32)
        have pskShort := length_read (decodeB64Token_last (trimEnd (skip 32 parts.2)) 64)
        generalize isSsid : decodeB64Token parts.1 zeros 33 32 = ssid at ssidShort
        generalize isPsk : decodeB64Token (trimEnd (skip 32 parts.2)) zeros 65 64 = psk at pskShort
        have stage (answers : Answers) (nvs : Nvs) : handleWifiLine answers nvs line =
            if ¬ ssid.2 ∨ read ssid.1 0 33 = [] then (nvs, rejected)
            else if ¬ psk.2 then (nvs, rejected)
            else if (read psk.1 0 65).length > 0 ∧ (read psk.1 0 65).length < 8 then (nvs, rejected)
            else if (read psk.1 0 65).length = 64 ∧ ¬ isHexString (read psk.1 0 65) then
              (nvs, rejected)
            else
              match storeWifiCreds answers nvs (read ssid.1 0 33) (read psk.1 0 65) with
              | (nvs, false) => (nvs, rejected)
              | (nvs, true) =>
                  (nvs, { handled := true, reboot := true, ack := some "NBP-PROV-OK\n" }) := by
          have unfolded := handleWifiLine.eq_1 answers nvs line
          simp only [own, isCut, isSsid, isPsk, not_true_eq_false, if_false] at unfolded
          exact unfolded
        have refused (holds : ∀ answers nvs, handleWifiLine answers nvs line = (nvs, rejected)) :
            ∃ result : LineResult, result.reboot = false ∧
              ∀ answers nvs, handleWifiLine answers nvs line = (nvs, result) := ⟨rejected, rfl, holds⟩
        by_cases noName : ¬ ssid.2 ∨ read ssid.1 0 33 = []
        · exact .inl (refused fun answers nvs => (stage answers nvs).trans (if_pos noName))
        simp only [if_neg noName] at stage
        by_cases noPsk : ¬ psk.2
        · exact .inl (refused fun answers nvs => (stage answers nvs).trans (if_pos noPsk))
        simp only [if_neg noPsk] at stage
        by_cases short : (read psk.1 0 65).length > 0 ∧ (read psk.1 0 65).length < 8
        · exact .inl (refused fun answers nvs => (stage answers nvs).trans (if_pos short))
        simp only [if_neg short] at stage
        by_cases noHex : (read psk.1 0 65).length = 64 ∧ ¬ isHexString (read psk.1 0 65)
        · exact .inl (refused fun answers nvs => (stage answers nvs).trans (if_pos noHex))
        simp only [if_neg noHex] at stage
        refine .inr ⟨⟨read ssid.1 0 33, read psk.1 0 65⟩, ⟨⟨?_, ssidShort⟩, ?_⟩, stage⟩
        · exact List.length_pos_of_ne_nil fun empty => noName (.inr empty)
        · show ValidPassword (read psk.1 0 65)
          generalize read psk.1 0 65 = text at short noHex pskShort
          unfold ValidPassword
          rw [← List.length_eq_zero_iff]
          rcases Nat.lt_or_eq_of_le pskShort with below | full
          · omega
          · exact .inr (.inr ⟨full, by_contra fun other => noHex ⟨full, other⟩⟩)
  · exact .inl ⟨{}, rfl, fun answers nvs => if_pos own⟩

/-- What a form that is accepted holds. -/
theorem apWifiPost_cases (arrivals : List SetupForm.Recv) :
    (∃ text, ∀ nvs outcome, apWifiPost nvs arrivals outcome = (nvs, some text)) ∨
    ∃ c, Valid c ∧ ∀ nvs outcome, apWifiPost nvs arrivals outcome =
      if !outcome.opens then (nvs, some "nvs open")
      else (nvs.attempt outcome (credWrites c.ssid c.psk), none) := by
  cases isSsid : formGet (upToNul (SetupForm.receive 255 arrivals)) (ascii "ssid") 34 with
  | none => exact .inl ⟨"missing ssid", fun nvs outcome => by simp only [apWifiPost, isSsid]⟩
  | some ssid =>
      generalize isPsk :
        (formGet (upToNul (SetupForm.receive 255 arrivals)) (ascii "psk") 66).getD [] = psk
      have stage (nvs : SetupForm.Nvs) (outcome : Outcome String) :
          apWifiPost nvs arrivals outcome =
            if ssid = [] then (nvs, some "missing ssid")
            else if 32 < ssid.length then (nvs, some "ssid too long")
            else if badPassword psk then (nvs, some "invalid password")
            else if !outcome.opens then (nvs, some "nvs open")
            else (nvs.attempt outcome (credWrites ssid psk), none) := by
        simp only [apWifiPost, isSsid, isPsk]
      by_cases noName : ssid = []
      · exact .inl ⟨_, fun nvs outcome => (stage nvs outcome).trans (if_pos noName)⟩
      simp only [if_neg noName] at stage
      by_cases long : 32 < ssid.length
      · exact .inl ⟨_, fun nvs outcome => (stage nvs outcome).trans (if_pos long)⟩
      simp only [if_neg long] at stage
      by_cases bad : badPassword psk = true
      · exact .inl ⟨_, fun nvs outcome => (stage nvs outcome).trans (if_pos bad)⟩
      simp only [if_neg bad] at stage
      refine .inr ⟨⟨ssid, psk⟩, ⟨⟨List.length_pos_of_ne_nil noName, Nat.le_of_not_lt long⟩, ?_⟩, stage⟩
      exact by_contra fun invalid => bad ((badPassword_iff psk).mpr invalid)

/-! ## What is stored -/

/-- The keys of the station. -/
def Own (key : Key) : Prop := key = .wifiSsid ∨ key = .wifiPsk

section

variable {answers : Answers} {nvs nvs' : Nvs} {key : Key} {c : Credentials} {line : List UInt8}
  {arrivals : List SetupForm.Recv} {outcome : Outcome String}

/-- A key has what it had, or what was to be written to it. -/
theorem writes_apply (answers : Answers) (nvs : Nvs) (entries : List (Key × Value)) (key : Key) :
    (writes answers nvs entries).1 key = nvs key ∨
      ∃ value, (key, value) ∈ entries ∧ (writes answers nvs entries).1 key = some value := by
  induction entries generalizing nvs with
  | nil => exact .inl rfl
  | cons entry rest ih =>
      obtain ⟨key', value⟩ := entry
      unfold writes
      split
      · rcases ih (nvs.put key' value) with same | ⟨value', inside, now⟩
        · by_cases here : key = key'
          · subst here
            refine .inr ⟨value, List.mem_cons_self, same.trans ?_⟩
            simp [Store.put]
          · refine .inl (same.trans ?_)
            simp [Store.put, here]
        · exact .inr ⟨value', List.mem_cons_of_mem _ inside, now⟩
      · exact .inl rfl

theorem storeNatConfig_own (own : Own key) (answers : Answers) (nvs : Nvs) (enabled : Bool)
    (ssid psk : List UInt8) (updateSsid updatePsk : Bool) :
    (storeNatConfig answers nvs enabled ssid psk updateSsid updatePsk).1 key = nvs key := by
  unfold storeNatConfig
  split
  · refine (writes_apply _ _ _ key).resolve_right ?_
    rintro ⟨value, inside, -⟩
    rcases own with rfl | rfl <;> cases updateSsid <;> cases updatePsk <;> simp at inside
  · rfl

/-- A line that is handled and leaves the station alone. -/
structure Aside (nvs : Nvs) (result : Nvs × LineResult) : Prop where
  handled : result.2.handled = true
  reboot : result.2.reboot = false
  kept : ∀ key, Own key → result.1 key = nvs key

theorem aside_ite {p : Prop} [Decidable p] {result : Nvs × LineResult} (other : Aside nvs result) :
    Aside nvs (if p then (nvs, rejected) else result) := by
  split
  · exact ⟨rfl, rfl, fun _ _ => rfl⟩
  · exact other

theorem handleNatLine_aside (isNat : ascii "NBP-NAT1 " <+: line) (answers : Answers) (nvs : Nvs) :
    Aside nvs (handleNatLine answers nvs line) := by
  have refused : Aside nvs (nvs, rejected) := ⟨rfl, rfl, fun _ _ => rfl⟩
  unfold handleNatLine
  rw [if_neg (not_not_intro isNat)]
  split
  · exact refused
  · split
    · exact refused
    · dsimp only
      apply aside_ite
      apply aside_ite
      apply aside_ite
      apply aside_ite
      split
      · rename_i stored
        refine ⟨rfl, rfl, fun key own => ?_⟩
        rw [← storeNatConfig_own own answers nvs, stored]
      · rename_i stored
        refine ⟨rfl, rfl, fun key own => ?_⟩
        rw [← storeNatConfig_own own answers nvs, stored]

structure Stored (nvs : Nvs) : Prop where
  ssid : ∀ v, nvs .wifiSsid = some v → ∃ s, v = .str s ∧ ValidSsid s
  psk : ∀ v, nvs .wifiPsk = some v → ∃ s, v = .str s ∧ ValidPassword s

theorem Stored.congr (stored : Stored nvs) (kept : ∀ key, Own key → nvs' key = nvs key) :
    Stored nvs' := by
  refine ⟨fun v here => stored.ssid v ?_, fun v here => stored.psk v ?_⟩
  · exact (kept _ (.inl rfl)).symm.trans here
  · exact (kept _ (.inr rfl)).symm.trans here

theorem readCreds_congr (kept : ∀ key, Own key → nvs' key = nvs key) :
    readCreds nvs' = readCreds nvs := by
  simp only [readCreds, getStr, kept _ (.inl rfl), kept _ (.inr rfl)]

/-- What is stored fits the buffers. -/
theorem readCreds_of_str (ssid : nvs .wifiSsid = some (.str c.ssid)) (valid : Valid c)
    (psk : nvs .wifiPsk = some (.str c.psk) ∨ nvs .wifiPsk = none ∧ c.psk = []) :
    readCreds nvs = some c := by
  obtain ⟨⟨some_, short⟩, password⟩ := valid
  have pskShort : c.psk.length < 65 := by
    rcases password with empty | within | hex
    · simp [empty]
    · omega
    · omega
  have pskRead : (getStr nvs .wifiPsk 65).getD [] = c.psk := by
    rcases psk with here | ⟨absent, empty⟩
    · simp only [getStr, here, pskShort, if_true, Option.getD_some]
    · simp only [getStr, absent, Option.getD_none, empty]
  have ssidRead : getStr nvs .wifiSsid 33 = some c.ssid := by
    simp only [getStr, ssid, Nat.lt_succ_of_le short, if_true]
  unfold readCreds
  rw [ssidRead, pskRead]
  obtain ⟨_ | ⟨first, rest⟩, psk⟩ := c
  · exact absurd some_ (Nat.not_succ_le_zero 0)
  · rfl

theorem Stored.readCreds (stored : Stored nvs) :
    (nvs .wifiSsid = none ∧ readCreds nvs = none) ∨ ∃ c, readCreds nvs = some c ∧ Valid c := by
  cases isSsid : nvs .wifiSsid with
  | none =>
      refine .inl ⟨rfl, ?_⟩
      simp only [Station.readCreds, getStr, isSsid]
  | some v =>
      obtain ⟨ssid, rfl, name⟩ := stored.ssid v isSsid
      right
      cases isPsk : nvs .wifiPsk with
      | none =>
          have valid : Valid ⟨ssid, []⟩ := ⟨name, .inl rfl⟩
          exact ⟨_, readCreds_of_str isSsid valid (.inr ⟨isPsk, rfl⟩), valid⟩
      | some v =>
          obtain ⟨psk, rfl, password⟩ := stored.psk v isPsk
          have valid : Valid ⟨ssid, psk⟩ := ⟨name, password⟩
          exact ⟨_, readCreds_of_str isSsid valid (.inl isPsk), valid⟩

/-! ## Lines of the console -/

/-- NVS takes the credentials. -/
def fine (answers : Answers) : Bool :=
  answers.opens && answers.write .wifiSsid && answers.write .wifiPsk && answers.commit

/-- What a line asks for: what it leaves in an NVS that has nothing. -/
def lineCreds (line : List UInt8) : Option Credentials :=
  readCreds (handleLine succeeding erased line).1

theorem stored_storeWifiCreds (stored : Stored nvs) (valid : Valid c) (answers : Answers) :
    Stored (storeWifiCreds answers nvs c.ssid c.psk).1 := by
  unfold storeWifiCreds
  split
  · constructor
    · intro v here
      rcases writes_apply answers nvs [(.wifiSsid, .str c.ssid), (.wifiPsk, .str c.psk)] .wifiSsid with
        same | ⟨value, inside, now⟩
      · exact stored.ssid v (same.symm.trans here)
      · obtain rfl := Option.some.inj (now.symm.trans here)
        simp only [List.mem_cons, Prod.mk.injEq, true_and, reduceCtorEq, false_and, List.not_mem_nil,
          or_false] at inside
        exact ⟨c.ssid, inside, valid.1⟩
    · intro v here
      rcases writes_apply answers nvs [(.wifiSsid, .str c.ssid), (.wifiPsk, .str c.psk)] .wifiPsk with
        same | ⟨value, inside, now⟩
      · exact stored.psk v (same.symm.trans here)
      · obtain rfl := Option.some.inj (now.symm.trans here)
        simp only [List.mem_cons, Prod.mk.injEq, true_and, reduceCtorEq, false_and, List.not_mem_nil,
          or_false, false_or] at inside
        exact ⟨c.psk, inside, valid.2⟩
  · exact stored

theorem storeWifiCreds_fine (isFine : fine answers = true) (nvs : Nvs) (c : Credentials) :
    storeWifiCreds answers nvs c.ssid c.psk =
      ((nvs.put .wifiSsid (.str c.ssid)).put .wifiPsk (.str c.psk), true) := by
  simp only [fine, Bool.and_eq_true] at isFine
  simp only [storeWifiCreds, writes, isFine, if_true]

theorem handleLine_wifi (other : ¬ ascii "NBP-NAT1 " <+: line) (answers : Answers) (nvs : Nvs) :
    handleLine answers nvs line = handleWifiLine answers nvs line := by
  have first : handleNatLine answers nvs line = (nvs, {}) := if_pos other
  rw [handleLine, first]
  rfl

theorem handleLine_nat (isNat : ascii "NBP-NAT1 " <+: line) (answers : Answers) (nvs : Nvs) :
    Aside nvs (handleLine answers nvs line) := by
  have aside := handleNatLine_aside isNat answers nvs
  have only : handleLine answers nvs line = handleNatLine answers nvs line := if_pos aside.handled
  rw [only]
  exact aside

theorem stored_handleLine (stored : Stored nvs) (answers : Answers) (line : List UInt8) :
    Stored (handleLine answers nvs line).1 := by
  by_cases isNat : ascii "NBP-NAT1 " <+: line
  · exact stored.congr (handleLine_nat isNat answers nvs).kept
  rw [handleLine_wifi isNat]
  rcases handleWifiLine_cases line with ⟨result, -, same⟩ | ⟨c, valid, stores⟩
  · rw [same]
    exact stored
  · have next := stored_storeWifiCreds stored valid answers
    rw [stores]
    generalize storeWifiCreds answers nvs c.ssid c.psk = written at next
    obtain ⟨nvs', _ | _⟩ := written <;> exact next

/-- A line that NVS takes is stored, acknowledged and followed by a restart; any other leaves what
there is. -/
theorem handleLine_fine (isFine : fine answers = true) (nvs : Nvs) (line : List UInt8) :
    (handleLine answers nvs line).2.reboot = (lineCreds line).isSome ∧
      readCreds (handleLine answers nvs line).1 = (lineCreds line).or (readCreds nvs) := by
  by_cases isNat : ascii "NBP-NAT1 " <+: line
  · have aside := handleLine_nat isNat answers nvs
    have asks : lineCreds line = none := readCreds_congr (handleLine_nat isNat succeeding erased).kept
    rw [asks, aside.reboot, readCreds_congr aside.kept]
    exact ⟨rfl, rfl⟩
  unfold lineCreds
  rw [handleLine_wifi isNat, handleLine_wifi isNat]
  rcases handleWifiLine_cases line with ⟨result, noReboot, same⟩ | ⟨c, valid, stores⟩
  · rw [same, same]
    exact ⟨noReboot, rfl⟩
  · have reads (nvs : Nvs) :
        readCreds ((nvs.put .wifiSsid (.str c.ssid)).put .wifiPsk (.str c.psk)) = some c := by
      apply readCreds_of_str _ valid
      · exact .inl (by simp [Store.put])
      · simp [Store.put]
    rw [stores, stores, storeWifiCreds_fine isFine, storeWifiCreds_fine (by decide)]
    show true = (readCreds _).isSome ∧ readCreds _ = (readCreds _).or _
    rw [reads, reads]
    exact ⟨rfl, rfl⟩

/-! ## The setup page -/

/-- What a form asks for. -/
def formCreds (arrivals : List SetupForm.Recv) : Option Credentials :=
  readCreds (wifiPost erased arrivals {}).1

/-- The form concerns the keys of the station only. -/
theorem withWifi_wifiNamespace (stored : Stored nvs) : withWifi (wifiNamespace nvs) nvs = nvs := by
  funext key
  cases key with
  | wifiSsid =>
      show ((nvs .wifiSsid).bind Value.str?).map .str = nvs .wifiSsid
      cases isSsid : nvs .wifiSsid with
      | none => rfl
      | some v =>
          obtain ⟨s, rfl, -⟩ := stored.ssid v isSsid
          rfl
  | wifiPsk =>
      show ((nvs .wifiPsk).bind Value.str?).map .str = nvs .wifiPsk
      cases isPsk : nvs .wifiPsk with
      | none => rfl
      | some v =>
          obtain ⟨s, rfl, -⟩ := stored.psk v isPsk
          rfl
  | natEnabled | natApSsid | natApPsk => rfl

theorem attempt_ssid (wifi : SetupForm.Nvs) (outcome : Outcome String) (c : Credentials) :
    wifi.attempt outcome (credWrites c.ssid c.psk) "ssid" =
      if outcome.lands "ssid" then some c.ssid else wifi "ssid" := by
  have mem : ("ssid", c.ssid) ∈ credWrites c.ssid c.psk := List.mem_cons_self
  exact attempt_of_mem (by simp [credWrites]) mem

theorem attempt_psk (wifi : SetupForm.Nvs) (outcome : Outcome String) (c : Credentials) :
    wifi.attempt outcome (credWrites c.ssid c.psk) "psk" =
      if outcome.lands "psk" then some c.psk else wifi "psk" := by
  have mem : ("psk", c.psk) ∈ credWrites c.ssid c.psk := List.mem_cons_of_mem _ List.mem_cons_self
  exact attempt_of_mem (by simp [credWrites]) mem

/-- What the setup page does, on the whole of NVS. -/
theorem wifiPost_cases (arrivals : List SetupForm.Recv) :
    (∃ text, ∀ nvs outcome, Stored nvs → wifiPost nvs arrivals outcome = (nvs, some text)) ∨
    ∃ c, Valid c ∧ ∀ nvs outcome, Stored nvs → wifiPost nvs arrivals outcome =
      if outcome.opens then
        (withWifi ((wifiNamespace nvs).attempt outcome (credWrites c.ssid c.psk)) nvs, none)
      else (nvs, some "nvs open") := by
  rcases apWifiPost_cases arrivals with ⟨text, refused⟩ | ⟨c, valid, stores⟩
  · refine .inl ⟨text, fun nvs outcome stored => ?_⟩
    unfold wifiPost
    rw [refused]
    dsimp only
    rw [withWifi_wifiNamespace stored]
  · refine .inr ⟨c, valid, fun nvs outcome stored => ?_⟩
    unfold wifiPost
    rw [stores]
    cases outcome.opens with
    | true => rfl
    | false =>
        show (withWifi (wifiNamespace nvs) nvs, _) = _
        rw [withWifi_wifiNamespace stored]
        rfl

theorem stored_wifiPost (stored : Stored nvs) (arrivals : List SetupForm.Recv)
    (outcome : Outcome String) : Stored (wifiPost nvs arrivals outcome).1 := by
  have same := withWifi_wifiNamespace stored
  rcases wifiPost_cases arrivals with ⟨text, refused⟩ | ⟨c, valid, stores⟩
  · rw [refused nvs outcome stored]
    exact stored
  · rw [stores nvs outcome stored]
    split
    · constructor
      · intro v here
        have now : ((wifiNamespace nvs).attempt outcome (credWrites c.ssid c.psk) "ssid").map
            Value.str = some v := here
        rw [attempt_ssid] at now
        split at now
        · exact ⟨c.ssid, (Option.some.inj now).symm, valid.1⟩
        · exact stored.ssid v ((congrFun same .wifiSsid).symm.trans now)
      · intro v here
        have now : ((wifiNamespace nvs).attempt outcome (credWrites c.ssid c.psk) "psk").map
            Value.str = some v := here
        rw [attempt_psk] at now
        split at now
        · exact ⟨c.psk, (Option.some.inj now).symm, valid.2⟩
        · exact stored.psk v ((congrFun same .wifiPsk).symm.trans now)
    · exact stored

theorem wifiPost_fine (stored : Stored nvs) (ssidLands : outcome.lands "ssid" = true)
    (pskLands : outcome.lands "psk" = true) (arrivals : List SetupForm.Recv) :
    ((wifiPost nvs arrivals outcome).2.isNone = (formCreds arrivals).isSome) ∧
      readCreds (wifiPost nvs arrivals outcome).1 = (formCreds arrivals).or (readCreds nvs) := by
  have nothing : Stored erased := ⟨nofun, nofun⟩
  unfold formCreds
  rcases wifiPost_cases arrivals with ⟨text, refused⟩ | ⟨c, valid, stores⟩
  · rw [refused nvs outcome stored, refused erased {} nothing]
    exact ⟨rfl, rfl⟩
  · have reads (nvs : Nvs) {outcome : Outcome String} (ssidLands : outcome.lands "ssid" = true)
        (pskLands : outcome.lands "psk" = true) :
        readCreds (withWifi ((wifiNamespace nvs).attempt outcome (credWrites c.ssid c.psk)) nvs) =
          some c := by
      apply readCreds_of_str _ valid
      · left
        show ((wifiNamespace nvs).attempt outcome (credWrites c.ssid c.psk) "psk").map Value.str = _
        rw [attempt_psk, if_pos pskLands]
        rfl
      · show ((wifiNamespace nvs).attempt outcome (credWrites c.ssid c.psk) "ssid").map Value.str = _
        rw [attempt_ssid, if_pos ssidLands]
        rfl
    have opens : outcome.opens = true := by
      simp only [Outcome.lands, Bool.and_eq_true] at ssidLands
      exact ssidLands.1.1
    rw [stores nvs outcome stored, stores erased {} nothing, if_pos opens, if_pos rfl]
    dsimp only
    rw [reads nvs ssidLands pskLands, reads erased rfl rfl]
    exact ⟨rfl, rfl⟩

end

/-! ## What is asked for is what was meant -/

theorem lineCreds_wifiLine {config : WebFlasher.Config} (accepted : WebFlasher.Accepted config)
    {sta : Credentials} (isSta : config.sta = some sta) :
    lineCreds (WebFlasher.wifiLine sta) = some sta := by
  obtain ⟨some_, ssidFits, password⟩ := accepted.sta sta isSta
  unfold lineCreds
  rw [handleLine_wifiLine erased some_ ssidFits password]
  apply readCreds_of_str rfl
  · refine ⟨⟨List.length_pos_of_ne_nil some_, ssidFits.short⟩, ?_⟩
    have short := password.short
    rcases password.open_or_long with empty | long
    · exact .inl empty
    · rcases Nat.lt_or_eq_of_le short with below | full
      · exact .inr (.inl ⟨long, by omega⟩)
      · exact .inr (.inr ⟨full, by rw [isHexString_eq]; exact password.hex rfl full⟩)
  · exact .inl rfl

theorem formCreds_formBody {ssid psk : List FormText.Piece} {arrivals : List SetupForm.Recv}
    (delivers : SetupForm.Delivers (SetupForm.formBody ssid psk) arrivals)
    (name : ValidSsid (FormText.bytesOf ssid)) (password : ValidPassword (FormText.bytesOf psk))
    (short : (SetupForm.formBody ssid psk).length ≤ 255) :
    formCreds arrivals = some ⟨FormText.bytesOf ssid, FormText.bytesOf psk⟩ := by
  have arrived := SetupForm.arrivedPsk_whole short
  rcases SetupForm.apWifiPost_eq (wifiNamespace erased) {} delivers with
    ⟨-, -, -, result⟩ | ⟨refused, -⟩
  · unfold formCreds wifiPost
    rw [result, arrived]
    let c : Credentials := ⟨FormText.bytesOf ssid, FormText.bytesOf psk⟩
    have ssidNow := attempt_ssid (wifiNamespace erased) {} c
    have pskNow := attempt_psk (wifiNamespace erased) {} c
    apply readCreds_of_str (c := c) _ ⟨name, password⟩
    · exact .inl (congrArg (Option.map Value.str) pskNow)
    · exact congrArg (Option.map Value.str) ssidNow
  · exact absurd ⟨name, arrived ▸ password, rfl⟩ refused

/-! ## The life of a device -/

/-- Where bytes come from while the device starts. -/
inductive Port
  | uart | usb
  deriving DecidableEq

inductive Stage
  /-- `poll_boot_window` -/
  | window
  /-- the station is configured, and joined sooner or later -/
  | station (sta : Sta)
  /-- `enter_ap_provisioning` -/
  | setup
  deriving DecidableEq

theorem empty_fits : ([] : List UInt8).length < 512 := by decide

def emptyLine : RxLine := ⟨[], empty_fits⟩

structure State where
  nvs : Nvs
  stage : Stage := .window
  /-- `uart_line`, `usb_line` -/
  lines : Port → RxLine := fun _ => emptyLine
  /-- what was acknowledged; nothing reads it -/
  accepted : List Credentials := []
  /-- NVS has refused a write, or was cut short between two; nothing reads it -/
  failed : Bool := false

def State.restart (s : State) : State := { s with stage := .window, lines := fun _ => emptyLine }

inductive Action
  | hear (port : Port) (byte : UInt8) (answers : Answers)
  | windowEnds
  /-- no address within `CONFIG_NBP_AP_FALLBACK_SECS` -/
  | noAddress (sta : Sta)
  | post (arrivals : List SetupForm.Recv) (outcome : Outcome String)
  /-- a restart for any other reason -/
  | reset

def Guard (fallback : Bool) (s : State) : Action → Prop
  | .hear .. | .windowEnds => s.stage = .window
  | .noAddress sta => s.stage = .station sta ∧ fallback = true
  | .post .. => s.stage = .setup
  | .reset => True

instance (fallback : Bool) (s : State) : (a : Action) → Decidable (Guard fallback s a)
  | .hear .. | .windowEnds | .post .. => inferInstanceAs (Decidable (_ = _))
  | .noAddress _ => inferInstanceAs (Decidable (_ = _ ∧ _ = _))
  | .reset => inferInstanceAs (Decidable True)

def hear (s : State) (port : Port) (byte : UInt8) (answers : Answers) : State :=
  let d := appendRx answers { line := s.lines port, nvs := s.nvs } byte
  let next := { s with nvs := d.nvs, failed := s.failed || !fine answers }
  if d.rebooted then
    { next.restart with
      accepted := s.accepted ++ (lineCreds (upToNul (s.lines port).data)).toList }
  else { next with lines := Function.update s.lines port d.line }

def post (s : State) (arrivals : List SetupForm.Recv) (outcome : Outcome String) : State :=
  let (nvs, error) := wifiPost s.nvs arrivals outcome
  let next := { s with
    nvs, failed := s.failed || !(outcome.lands "ssid" && outcome.lands "psk") }
  if error.isNone then
    { next.restart with accepted := s.accepted ++ (formCreds arrivals).toList }
  else next

def effect (fallback : Bool) (header : Credentials) (s : State) : Action → State
  | .hear port byte answers => hear s port byte answers
  | .windowEnds =>
      match start fallback header s.nvs with
      | none => { s with stage := .setup }
      | some sta => { s with stage := .station sta }
  | .noAddress _ => { s with stage := .setup }
  | .post arrivals outcome => post s arrivals outcome
  | .reset => s.restart

def system (fallback : Bool) (header : Credentials) (nvs : Nvs) : ActionSystem State Action where
  init := { nvs }
  Guard := Guard fallback
  guardDecidable := inferInstance
  effect := effect fallback header

section

variable {fallback : Bool} {header : Credentials} {nvs : Nvs} {s : State}

structure Inv (fallback : Bool) (header : Credentials) (nvs : Nvs) (s : State) : Prop where
  stored : Stored s.nvs
  last : s.failed = false → readCreds s.nvs = s.accepted.getLast?.or (readCreds nvs)
  station : ∀ sta, s.stage = .station sta → start fallback header s.nvs = some sta

theorem Inv.restart (inv : Inv fallback header nvs s) : Inv fallback header nvs s.restart :=
  ⟨inv.stored, inv.last, nofun⟩

/-- What is read after something was accepted, or not. -/
theorem getLast?_accepted (accepted : List Credentials) (asked before : Option Credentials) :
    asked.or (accepted.getLast?.or before) = (accepted ++ asked.toList).getLast?.or before := by
  cases asked with
  | none => simp
  | some c => simp

/-- A byte ends a line, or goes into it. -/
theorem appendRx_cases (answers : Answers) (line : RxLine) (nvs : Nvs) (byte : UInt8) :
    ((appendRx answers { line, nvs } byte).nvs = nvs ∧
      (appendRx answers { line, nvs } byte).rebooted = false) ∨
    ((appendRx answers { line, nvs } byte).nvs = (handleLine answers nvs (upToNul line.data)).1 ∧
      (appendRx answers { line, nvs } byte).rebooted =
        (handleLine answers nvs (upToNul line.data)).2.reboot) := by
  unfold appendRx
  simp only [Bool.false_eq_true, if_false]
  split
  · exact .inl ⟨rfl, rfl⟩
  · split
    · exact .inr ⟨rfl, rfl⟩
    · split <;> exact .inl ⟨rfl, rfl⟩

theorem inv_hear (inv : Inv fallback header nvs s) (window : s.stage = .window) (port : Port)
    (byte : UInt8) (answers : Answers) : Inv fallback header nvs (hear s port byte answers) := by
  unfold hear
  dsimp only
  rcases appendRx_cases answers (s.lines port) s.nvs byte with ⟨kept, up⟩ | ⟨written, reboot⟩
  · rw [if_neg (by rw [up]; decide), kept]
    refine ⟨inv.stored, fun fine_ => inv.last ?_, inv.station⟩
    simp only [Bool.or_eq_false_iff] at fine_
    exact fine_.1
  · rw [reboot, written]
    have stored := stored_handleLine inv.stored answers (upToNul (s.lines port).data)
    have last : (s.failed || !fine answers) = false →
        (handleLine answers s.nvs (upToNul (s.lines port).data)).2.reboot =
            (lineCreds (upToNul (s.lines port).data)).isSome ∧
          readCreds (handleLine answers s.nvs (upToNul (s.lines port).data)).1 =
            (s.accepted ++ (lineCreds (upToNul (s.lines port).data)).toList).getLast?.or
              (readCreds nvs) := by
      intro fine_
      simp only [Bool.or_eq_false_iff, Bool.not_eq_false'] at fine_
      obtain ⟨rebooted, reads⟩ := handleLine_fine fine_.2 s.nvs (upToNul (s.lines port).data)
      rw [← getLast?_accepted, ← inv.last fine_.1]
      exact ⟨rebooted, reads⟩
    split
    · exact ⟨stored, fun fine_ => (last fine_).2, nofun⟩
    · rename_i up
      refine ⟨stored, fun fine_ => ?_, fun sta at_ => by rw [window] at at_; cases at_⟩
      obtain ⟨rebooted, reads⟩ := last fine_
      rw [Bool.not_eq_true] at up
      have nothing : lineCreds (upToNul (s.lines port).data) = none := by
        rw [up] at rebooted
        simpa using rebooted.symm
      rw [nothing] at reads
      simpa using reads

theorem inv_post (inv : Inv fallback header nvs s) (setup : s.stage = .setup)
    (arrivals : List SetupForm.Recv) (outcome : Outcome String) :
    Inv fallback header nvs (post s arrivals outcome) := by
  have stored := stored_wifiPost inv.stored arrivals outcome
  have last : (s.failed || !(outcome.lands "ssid" && outcome.lands "psk")) = false →
      (wifiPost s.nvs arrivals outcome).2.isNone = (formCreds arrivals).isSome ∧
        readCreds (wifiPost s.nvs arrivals outcome).1 =
          (s.accepted ++ (formCreds arrivals).toList).getLast?.or (readCreds nvs) := by
    intro fine_
    simp only [Bool.or_eq_false_iff, Bool.not_eq_false', Bool.and_eq_true] at fine_
    obtain ⟨answered, reads⟩ := wifiPost_fine inv.stored fine_.2.1 fine_.2.2 arrivals
    rw [← getLast?_accepted, ← inv.last fine_.1]
    exact ⟨answered, reads⟩
  unfold post
  dsimp only
  split
  · exact ⟨stored, fun fine_ => (last fine_).2, nofun⟩
  · rename_i error
    refine ⟨stored, fun fine_ => ?_, fun sta at_ => ?_⟩
    · obtain ⟨answered, reads⟩ := last fine_
      rw [Bool.not_eq_true] at error
      have nothing : formCreds arrivals = none := by
        rw [error] at answered
        simpa using answered.symm
      rw [nothing] at reads
      simpa using reads
    · have at_ : s.stage = .station sta := at_
      rw [setup] at at_
      cases at_

theorem inv_step (inv : Inv fallback header nvs s) (a : Action) (guard : Guard fallback s a) :
    Inv fallback header nvs (effect fallback header s a) := by
  cases a with
  | hear port byte answers => exact inv_hear inv guard port byte answers
  | windowEnds =>
      show Inv fallback header nvs (match start fallback header s.nvs with
        | none => { s with stage := .setup }
        | some sta => { s with stage := .station sta })
      cases starts : start fallback header s.nvs with
      | none => exact ⟨inv.stored, inv.last, nofun⟩
      | some sta =>
          refine ⟨inv.stored, inv.last, ?_⟩
          rintro sta' ⟨⟩
          exact starts
  | noAddress sta => exact ⟨inv.stored, inv.last, nofun⟩
  | post arrivals outcome => exact inv_post inv guard arrivals outcome
  | reset => exact inv.restart

end

/-- **The station has the credentials that were accepted last.** In every life of a device whose NVS
is valid at first and can be read, whatever it hears on its ports, is sent by the setup page and
hears from NVS when it writes: the station that is configured has the credentials of the build, or
a name of 1 to 32 bytes and a password that can be one. If NVS has refused nothing and no reset
came between the two writes of a pair, they are those that were accepted last, by either way, or
else what was there before; and with the fallback there is a name. -/
theorem station_credentials (fallback : Bool) (header : Credentials) (nvs : Nvs)
    (before : Stored nvs) (s : State) (path : (system fallback header nvs).Reachable s) (sta : Sta)
    (joins : s.stage = .station sta) :
    (∃ c, sta = Sta.of c ∧ (c = fromHeader header ∨ Valid c) ∧ (fallback = true → c.ssid ≠ [])) ∧
      (s.failed = false → sta =
        Sta.of ((s.accepted.getLast?.or (readCreds nvs)).getD (fromHeader header))) := by
  have inv : Inv fallback header nvs s := by
    refine path.invariant (P := Inv fallback header nvs) ?_ fun s a inv guard => inv_step inv a guard
    exact ⟨before, fun _ => rfl, nofun⟩
  have starts := inv.station sta joins
  unfold start at starts
  dsimp only at starts
  split at starts
  · cases starts
  · rename_i named
    obtain rfl := Option.some.inj starts
    refine ⟨⟨_, rfl, ?_, fun on empty => named ⟨on, empty⟩⟩, fun fine_ => by rw [inv.last fine_]⟩
    rcases inv.stored.readCreds with ⟨-, nothing⟩ | ⟨c, reads, valid⟩
    · exact .inl (by rw [nothing]; rfl)
    · right
      rw [reads]
      exact valid

/-- The line of the page on one port, noise on the other, and a form after that. -/
def homeLife : List Action :=
  let line := WebFlasher.wifiLine ⟨home.staSsid, home.staPsk⟩ ++ [10]
  .hear .uart 78 succeeding :: line.map (fun byte => .hear .usb byte succeeding) ++
    [.windowEnds, .noAddress (Sta.of ⟨home.staSsid, home.staPsk⟩),
      .post [.data (ascii "ssid=b"), .timeout, .data (ascii "arn&psk=%31%32345678")] {}, .windowEnds]

theorem station_credentials_home :
    ∃ s, (system true ⟨[], []⟩ erased).Reachable s ∧
      s.stage = .station (Sta.of ⟨ascii "barn", ascii "12345678"⟩) ∧
      s.accepted = [⟨home.staSsid, home.staPsk⟩, ⟨ascii "barn", ascii "12345678"⟩] ∧
      (s.failed = false → Sta.of ⟨ascii "barn", ascii "12345678"⟩ =
        Sta.of ((s.accepted.getLast?.or (readCreds erased)).getD (fromHeader ⟨[], []⟩))) := by
  have path := (system true ⟨[], []⟩ erased).reachable_final homeLife
  obtain ⟨joins, accepted⟩ : ((system true ⟨[], []⟩ erased).final homeLife).stage =
        .station (Sta.of ⟨ascii "barn", ascii "12345678"⟩) ∧
      ((system true ⟨[], []⟩ erased).final homeLife).accepted =
        [⟨home.staSsid, home.staPsk⟩, ⟨ascii "barn", ascii "12345678"⟩] := by decide +kernel
  have before : Stored erased := ⟨nofun, nofun⟩
  have last := station_credentials true ⟨[], []⟩ erased before _ path _ joins
  exact ⟨_, path, joins, accepted, last.2⟩

end NimbleProxy.Provision.Station
