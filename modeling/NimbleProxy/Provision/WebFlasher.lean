/-
# Provision.WebFlasher -- what the browser accepts, and the lines that it sends

`web-flasher/app.js`: `getProvisioningConfig` reads the form, and
`provisionWifiOverSerial` makes one line of the SoftAP settings and, if there is an SSID,
one of the WiFi credentials. A field is its UTF-8 bytes; `btoa` of these is
`Base64.encode`. An empty field is a dash.
-/
import NimbleProxy.Theory.Base64
import NimbleProxy.Theory.CString

namespace NimbleProxy.Provision.WebFlasher

open NimbleProxy.Theory CString

set_option autoImplicit false

/-- The input elements; their texts are without NUL. -/
structure Form where
  staSsid : List UInt8
  staPsk : List UInt8
  apEnabled : Bool
  apSsid : List UInt8
  apPsk : List UInt8
  noNul : 0 ∉ staSsid ++ staPsk ++ apSsid ++ apPsk

structure Credentials where
  ssid : List UInt8
  psk : List UInt8
  deriving DecidableEq

structure SoftAp where
  enabled : Bool
  ssid : List UInt8
  psk : List UInt8
  deriving DecidableEq

structure Config where
  sta : Option Credentials
  softAp : SoftAp
  deriving DecidableEq

/-- `[0-9a-fA-F]`. -/
def isHexDigit (c : UInt8) : Bool := 48 ≤ c ∧ c ≤ 57 ∨ 97 ≤ c ∧ c ≤ 102 ∨ 65 ≤ c ∧ c ≤ 70

def validatePassword (label : String) (value : List UInt8) (maxBytes : Nat) (allowHex64 : Bool) :
    Except String Unit :=
  let bytes := value.length
  if bytes > 0 ∧ bytes < 8 then
    .error (label ++ " must be empty for open networks or at least 8 bytes")
  else if bytes > maxBytes then
    .error (label ++ " must be " ++ toString maxBytes ++ " bytes or less")
  else if allowHex64 ∧ bytes = 64 ∧ ¬ value.all isHexDigit then
    .error ("64-byte " ++ label.toLower ++ "s must be hex PSKs")
  else .ok ()

/-- `if (p) throw new Error(message)`. -/
def throwIf (p : Prop) [Decidable p] (message : String) : Except String Unit :=
  if p then .error message else .ok ()

/-- `if (p) statement`. -/
def runIf (p : Prop) [Decidable p] (statement : Except String Unit) : Except String Unit :=
  if p then statement else .ok ()

def getProvisioningConfig (form : Form) : Except String Config := do
  throwIf (form.staSsid ≠ [] ∧ form.staSsid.length > 32) "WiFi SSID must be 32 bytes or less"
  runIf (form.staSsid ≠ []) (validatePassword "WiFi password" form.staPsk 64 true)
  throwIf (form.apEnabled ∧ form.apSsid ≠ [] ∧ form.apSsid.length > 32)
    "SoftAP SSID must be 32 bytes or less"
  runIf form.apEnabled (validatePassword "SoftAP password" form.apPsk 63 false)
  return {
    sta := if form.staSsid ≠ [] then some ⟨form.staSsid, form.staPsk⟩ else none
    softAp := ⟨form.apEnabled, if form.apEnabled then form.apSsid else [],
      if form.apEnabled then form.apPsk else []⟩ }

def base64Token (value : List UInt8) : List UInt8 :=
  if value = [] then ascii "-" else Base64.encode value

def natLine (softAp : SoftAp) : List UInt8 :=
  ascii "NBP-NAT1 " ++ (ascii (if softAp.enabled then "1" else "0") ++ 32 ::
    (base64Token softAp.ssid ++ 32 :: base64Token softAp.psk))

def wifiLine (sta : Credentials) : List UInt8 :=
  ascii "NBP-PROV1 " ++ (base64Token sta.ssid ++ 32 :: base64Token sta.psk)

/-- `lines` of `provisionWifiOverSerial`. -/
def lines (config : Config) : List (List UInt8) :=
  (natLine config.softAp ++ [10]) :: (config.sta.map fun sta => wifiLine sta ++ [10]).toList

/-! ## What is accepted -/

/-- Without a NUL, and not too long. -/
structure Fits (maxLen : Nat) (value : List UInt8) : Prop where
  noNul : 0 ∉ value
  short : value.length ≤ maxLen

/-- A password that `validatePassword` accepts. -/
structure Password (maxLen : Nat) (value : List UInt8) : Prop extends Fits maxLen value where
  open_or_long : value = [] ∨ 8 ≤ value.length
  hex : maxLen = 64 → value.length = 64 → value.all isHexDigit = true

/-- The limits of the device. -/
structure Accepted (config : Config) : Prop where
  sta : ∀ sta ∈ config.sta, sta.ssid ≠ [] ∧ Fits 32 sta.ssid ∧ Password 64 sta.psk
  softAp : Fits 32 config.softAp.ssid ∧ Password 63 config.softAp.psk

theorem validatePassword_ok {label : String} {value : List UInt8} {maxBytes : Nat}
    {allowHex64 : Bool} {u : Unit} (ok : validatePassword label value maxBytes allowHex64 = .ok u) :
    (value = [] ∨ 8 ≤ value.length) ∧ value.length ≤ maxBytes ∧
      (allowHex64 = true → value.length = 64 → value.all isHexDigit = true) := by
  unfold validatePassword at ok
  dsimp only at ok
  split at ok
  · cases ok
  · rename_i notShort
    split at ok
    · cases ok
    · rename_i notLong
      split at ok
      · cases ok
      · rename_i hex
        refine ⟨?_, by omega, fun allowed length => ?_⟩
        · rw [← List.length_eq_zero_iff]
          omega
        · by_contra other
          exact hex ⟨allowed, length, other⟩

theorem throwIf_bind_ok {p : Prop} [Decidable p] {message : String}
    {next : Unit → Except String Config} {config : Config}
    (ok : throwIf p message >>= next = .ok config) : ¬ p ∧ next () = .ok config := by
  unfold throwIf at ok
  split at ok
  · cases ok
  · rename_i not
    exact ⟨not, ok⟩

theorem runIf_bind_ok {p : Prop} [Decidable p] {statement : Except String Unit}
    {next : Unit → Except String Config} {config : Config}
    (ok : runIf p statement >>= next = .ok config) :
    (p → statement = .ok ()) ∧ next () = .ok config := by
  unfold runIf at ok
  split at ok
  · cases ran : statement with
    | error message =>
        rw [ran] at ok
        cases ok
    | ok u =>
        rw [ran] at ok
        exact ⟨fun _ => rfl, ok⟩
  · rename_i not
    exact ⟨fun yes => absurd yes not, ok⟩

/-- **What the form accepts is within the limits.** -/
theorem accepted {form : Form} {config : Config} (ok : getProvisioningConfig form = .ok config) :
    Accepted config := by
  obtain ⟨ssidFits, ok⟩ := throwIf_bind_ok ok
  obtain ⟨password, ok⟩ := runIf_bind_ok ok
  obtain ⟨apSsidFits, ok⟩ := throwIf_bind_ok ok
  obtain ⟨apPassword, ok⟩ := runIf_bind_ok ok
  cases ok
  have noNul := form.noNul
  simp only [List.mem_append, not_or] at noNul
  obtain ⟨⟨⟨noNulSsid, noNulPsk⟩, noNulApSsid⟩, noNulApPsk⟩ := noNul
  constructor
  · intro sta own
    dsimp only at own
    split at own
    · rename_i some_
      cases own
      obtain ⟨openOrLong, short, hex⟩ := validatePassword_ok (password some_)
      have shortSsid : form.staSsid.length ≤ 32 :=
        Nat.le_of_not_lt fun long => ssidFits ⟨some_, long⟩
      exact ⟨some_, ⟨noNulSsid, shortSsid⟩, ⟨⟨noNulPsk, short⟩, openOrLong, fun _ => hex rfl⟩⟩
    · cases own
  · dsimp only
    cases enabled : form.apEnabled with
    | false => exact ⟨⟨nofun, Nat.zero_le _⟩, ⟨⟨nofun, Nat.zero_le _⟩, .inl rfl, nofun⟩⟩
    | true =>
        obtain ⟨openOrLong, short, -⟩ := validatePassword_ok (apPassword enabled)
        refine ⟨⟨noNulApSsid, ?_⟩, ⟨⟨noNulApPsk, short⟩, openOrLong, nofun⟩⟩
        by_contra long
        refine apSsidFits ⟨enabled, ?_, Nat.lt_of_not_le long⟩
        rintro empty
        rw [if_pos rfl, empty] at long
        exact long (Nat.zero_le _)

end NimbleProxy.Provision.WebFlasher
