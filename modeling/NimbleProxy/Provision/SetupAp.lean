/-
# Provision.SetupAp -- the names of the two SoftAPs on the air

`compose_ap_ssid` and `enter_ap_provisioning` of `wifi_sta.cpp` make a name of the hostname
and the address, cut it to 32 bytes, and fill the field of the radio as `configure_ap` of
`nat_router.cpp` does. On both ways a name of 32 bytes goes out with a NUL at its end
(`softap_ssid_iff`).
-/
import NimbleProxy.Api.DevicesRendering
import NimbleProxy.Api.SettingsBodies
import NimbleProxy.NatRouter.Credentials

namespace NimbleProxy.Provision.SetupAp

open NimbleProxy.Theory KeyValue CString
open NimbleProxy.Api.DevicesJson (hex02 plain_hex02)
open NimbleProxy.Api.Hostname (isValidHostname)
open NimbleProxy.Api.SettingsBodies (plain_hostname)
open NimbleProxy.NatRouter SoftAp Credentials

set_option autoImplicit false

/-- The text of `compose_ap_ssid`, with two bytes of the address. -/
def setupSsid (hostname : Str) (mac4 mac5 : UInt8) : Str :=
  ⟨hostname.val ++ (ascii "-setup-" ++ (hex02 mac4 ++ hex02 mac5)), by
    have dash : 0 ∉ ascii "-setup-" := by decide
    simp [hostname.property, dash, (plain_hex02 mac4).noNul, (plain_hex02 mac5).noNul]⟩

/-- `snprintf` of it into 33 bytes. -/
def composeApSsid (hostname : Str) (mac4 mac5 : UInt8) : Text 33 :=
  .copy (setupSsid hostname mac4 mac5) (Nat.succ_pos 32)

/-- What `enter_ap_provisioning` tells the radio. -/
def enterApProvisioning (hostname : Str) (mac4 mac5 : UInt8) : ApConfig where
  ssid := ssidField (composeApSsid hostname mac4 mac5)
  ssidLen := ssidLength (composeApSsid hostname mac4 mac5)
  channel := 1
  maxConnection := 2
  password := List.replicate 64 0
  authmode := .open

theorem length_setupSsid (hostname : Str) (mac4 mac5 : UInt8) :
    (setupSsid hostname mac4 mac5).val.length = hostname.val.length + 11 := by
  simp only [setupSsid, List.length_append]
  rfl

/-- The name in the field is the one composed, up to 20 bytes of hostname. -/
theorem broadcast_setup_iff (hostname : Str) (mac4 mac5 : UInt8) :
    (enterApProvisioning hostname mac4 mac5).broadcast =
        (setupSsid hostname mac4 mac5).val.take 32 ↔ hostname.val.length ≤ 20 := by
  have whole : (enterApProvisioning hostname mac4 mac5).broadcast =
      (composeApSsid hostname mac4 mac5).bytes ↔
        (composeApSsid hostname mac4 mac5).bytes.length ≤ 31 := take_ssidField_iff
  apply whole.trans
  show ((setupSsid hostname mac4 mac5).val.take 32).length ≤ 31 ↔ _
  rw [List.length_take, length_setupSsid]
  omega

/-- A valid hostname, as bytes. -/
def hostnameBytes (hostname : String) (valid : isValidHostname hostname = true) : Str :=
  ⟨ascii hostname, (plain_hostname valid).1.noNul⟩

/-- A name that a request gives is in RAM if the request is accepted. -/
theorem ssid_of_accepted {cfg : Config} {primary : UInt8} {s : State} {query : Credentials.Query}
    {credOutcome flagOutcome : Outcome String} {ssid : Str} (given : givenSsid query = some ssid)
    (ok : (natPost cfg primary s (some query) credOutcome flagOutcome).2 = none) :
    (natPost cfg primary s (some query) credOutcome flagOutcome).1.ssid.bytes = ssid.val := by
  have accepted : Accepted query := by
    by_contra refused
    obtain ⟨text, error, _⟩ := natPost_refused cfg primary s credOutcome flagOutcome refused
    rw [error] at ok
    cases ok
  rw [(accepted_ram cfg primary s credOutcome flagOutcome accepted).1]
  exact newSsid_given given

/-- A name that is stored is in RAM after a start. -/
theorem ssid_of_stored (cfg : Config) (primary : UInt8) {nvs : Nvs} {ssid : Str}
    (stored : nvs "ap_ssid" = some (.str ssid)) (some_ : ssid.val ≠ [])
    (fits : ssid.val.length ≤ 32) : (start cfg primary nvs).ssid.bytes = ssid.val := by
  have loaded : (loadApCreds cfg nvs).1.bytes = ssid.val := by
    rw [loadApCreds, stored, loadSsid, nvsGetStr_str (by omega)]
    show (if ssid.val = [] then Text.copy cfg.ssid else Text.copy ssid).bytes = ssid.val
    rw [if_neg some_]
    exact Text.copy_bytes (by omega)
  unfold start
  dsimp only
  split
  · exact loaded
  · exact loaded

/-- **The name that goes on the air.** The name that a request gives and that is accepted, and the
one that is found in NVS, are the first `ssid_len` bytes of the field exactly if they have at most
31 bytes; the setup name, if the hostname has at most 20. -/
theorem softap_ssid_iff (cfg : Config) (primary : UInt8) :
    (∀ (s : State) (query : Credentials.Query) (credOutcome flagOutcome : Outcome String)
        (ssid : Str), givenSsid query = some ssid →
      (natPost cfg primary s (some query) credOutcome flagOutcome).2 = none →
      let after := (natPost cfg primary s (some query) credOutcome flagOutcome).1
      (configureAp after.ssid after.psk primary cfg.maxConn).broadcast = ssid.val ↔
        ssid.val.length ≤ 31) ∧
      (∀ (nvs : Nvs) (ssid : Str), nvs "ap_ssid" = some (.str ssid) → ssid.val ≠ [] →
        ssid.val.length ≤ 32 →
        let started := start cfg primary nvs
        (configureAp started.ssid started.psk primary cfg.maxConn).broadcast = ssid.val ↔
          ssid.val.length ≤ 31) ∧
      ∀ (hostname : String) (valid : isValidHostname hostname = true) (mac4 mac5 : UInt8),
        (enterApProvisioning (hostnameBytes hostname valid) mac4 mac5).broadcast =
            (setupSsid (hostnameBytes hostname valid) mac4 mac5).val.take 32 ↔
          hostname.toList.length ≤ 20 := by
  refine ⟨?_, ?_, ?_⟩
  · intro s query credOutcome flagOutcome ssid given ok
    rw [← ssid_of_accepted given ok]
    exact broadcast_configureAp_iff
  · intro nvs ssid stored some_ fits
    rw [← ssid_of_stored cfg primary stored some_ fits]
    exact broadcast_configureAp_iff
  · intro hostname valid mac4 mac5
    rw [broadcast_setup_iff]
    show (ascii hostname).length ≤ 20 ↔ _
    rw [ascii, List.length_map]

/-- The request of `rename`, a name from NVS, and the hostname of the build. -/
theorem softap_ssid_short :
    let before := start someConfig 6 fun _ => none
    let after := (natPost someConfig 6 before (some rename) {} {}).1
    let started := start someConfig 6 fun _ => some (.str ⟨ascii "cellar", by decide⟩)
    (configureAp after.ssid after.psk 6 4).broadcast = ascii "attic" ∧
      (configureAp started.ssid started.psk 6 4).broadcast = ascii "cellar" ∧
      (enterApProvisioning (hostnameBytes "nimble-proxy" (by decide)) 0xAB 0x12).broadcast =
        (setupSsid (hostnameBytes "nimble-proxy" (by decide)) 0xAB 0x12).val.take 32 :=
  ⟨((softap_ssid_iff someConfig 6).1 _ rename {} {} _ rfl (by decide +kernel)).mpr (by decide),
    ((softap_ssid_iff someConfig 6).2.1 _ ⟨ascii "cellar", by decide⟩ rfl (by decide)
      (by decide)).mpr (by decide),
    ((softap_ssid_iff someConfig 6).2.2 "nimble-proxy" (by decide) 0xAB 0x12).mpr (by decide)⟩

/-- POST /nat?ssid= with 32 bytes. -/
def longest : Credentials.Query := fun key =>
  if key = "ssid" then some ⟨List.replicate 32 97, by decide⟩ else none

/-- The request is accepted, and the name goes out with a NUL at its end; so does the setup name
of a hostname of 21 bytes. -/
theorem last_byte_lost :
    let answered := natPost someConfig 6 (start someConfig 6 fun _ => none) (some longest) {} {}
    answered.2 = none ∧
      (configureAp answered.1.ssid answered.1.psk 6 4).broadcast = List.replicate 31 97 ++ [0] ∧
      (enterApProvisioning (hostnameBytes "nimble-proxy-upstairs" (by decide)) 171 18).broadcast =
        ascii "nimble-proxy-upstairs-setup-AB1" ++ [0] := by
  decide +kernel

end NimbleProxy.Provision.SetupAp
