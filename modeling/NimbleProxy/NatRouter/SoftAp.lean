/-
# NatRouter.SoftAp -- what the radio is told about the SoftAP

`configure_ap` of `nat_router.cpp`, and `wifi_config_t` as far as it fills it. The name goes
into a field of 32 bytes without a terminator and has its length beside it; what goes on
the air is that many bytes of the field. The copy stops one byte earlier than the field
does, so a name of 32 bytes goes out with a NUL at its end (`broadcast_configureAp_iff`).
-/
import NimbleProxy.Theory.CString

namespace NimbleProxy.NatRouter.SoftAp

open NimbleProxy.Theory CString

set_option autoImplicit false

inductive AuthMode
  | open
  | wpa2Psk
  deriving DecidableEq

/-- `wifi_ap_config_t`. -/
structure ApConfig where
  /-- 32 bytes -/
  ssid : List UInt8
  ssidLen : UInt8
  channel : UInt8
  maxConnection : UInt8
  /-- 64 bytes -/
  password : List UInt8
  authmode : AuthMode
  deriving DecidableEq

/-- The name that goes on the air. -/
def ApConfig.broadcast (c : ApConfig) : List UInt8 := c.ssid.take c.ssidLen.toNat

/-- What a station has to know to join. -/
def ApConfig.secret (c : ApConfig) : List UInt8 :=
  match c.authmode with
  | .open => []
  | .wpa2Psk => upToNul c.password

/-- The field and the length, as `configure_ap` and `enter_ap_provisioning` fill them. -/
def ssidField (ssid : Text 33) : List UInt8 := field 32 31 ssid.bytes

def ssidLength (ssid : Text 33) : UInt8 := UInt8.ofNat ssid.bytes.length

/-- `configure_ap`; `primary` is the channel of the station. -/
def configureAp (ssid : Text 33) (psk : Text 64) (primary maxConn : UInt8) : ApConfig where
  ssid := ssidField ssid
  ssidLen := ssidLength ssid
  channel := if primary ≠ 0 then primary else 1
  maxConnection := maxConn
  password := if psk.bytes.length < 8 then List.replicate 64 0 else field 64 63 psk.bytes
  -- WPA2 needs a password of 8 bytes
  authmode := if psk.bytes.length < 8 then .open else .wpa2Psk

/-- A password that is too short for WPA2 is not asked for. -/
def askedFor (psk : Text 64) : List UInt8 := if psk.bytes.length < 8 then [] else psk.bytes

variable {ssid : Text 33} {psk : Text 64} {primary maxConn : UInt8}

/-- **The name on the air.** The first `ssid_len` bytes of the field are the name exactly if it has at
most 31 bytes. -/
theorem take_ssidField_iff :
    (ssidField ssid).take (ssidLength ssid).toNat = ssid.bytes ↔ ssid.bytes.length ≤ 31 := by
  have short := ssid.short
  have length : (ssidLength ssid).toNat = ssid.bytes.length :=
    UInt8.toNat_ofNat_of_lt' (by simp only [UInt8.size]; omega)
  rw [length]
  exact take_field_iff ssid.noNul (by omega)

theorem broadcast_configureAp_iff :
    (configureAp ssid psk primary maxConn).broadcast = ssid.bytes ↔ ssid.bytes.length ≤ 31 :=
  take_ssidField_iff

theorem secret_configureAp : (configureAp ssid psk primary maxConn).secret = askedFor psk := by
  by_cases weak : psk.bytes.length < 8
  · simp only [ApConfig.secret, configureAp, askedFor, weak, if_true]
  · have short := psk.short
    have tail : 64 - min 63 psk.bytes.length = 63 - psk.bytes.length + 1 := by omega
    simp only [ApConfig.secret, configureAp, askedFor, weak, if_false]
    rw [field, List.take_of_length_le (by omega), tail, List.replicate_succ]
    exact upToNul_append psk.noNul _

end NimbleProxy.NatRouter.SoftAp
