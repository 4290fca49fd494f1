/-
# Api.Handshake -- the requests that are answered without Bluetooth

`handshake.cpp`: `handle` looks at the type of a request only, fills in the record of the
answer and encodes it into the payload area. What the answers say about the device is the
`Identity`: the hostname, the two MAC addresses, if they can be read, and what the
compiler put in. A string that is printed into a field is cut to its room; a valid
hostname is not (`hello_name`).

`handle_eq` gives the answer to every request as a record of `Api.Messages`: there is one
for every request but SubscribeLogs, it always fits, and its number is never 0, which
`dispatch_one` would take for no answer.
-/
import NimbleProxy.Api.Messages
import NimbleProxy.Api.Hostname
import NimbleProxy.Api.DevicesJson
import NimbleProxy.Theory.CString

namespace NimbleProxy.Api.Handshake

open NimbleProxy.Theory
open NimbleProxy.Theory.CString (ascii)
open NimbleProxy.Api.FrameCodec (Message)
open NimbleProxy.Api.Messages
open NimbleProxy.Api.DevicesJson (hex02)
open NimbleProxy.Backend.GattDiscovery (pbEncode)

set_option autoImplicit false

/-! ## What the answers are made of -/

/-- `proxy_config.h`. -/
def version : String := "0.1.0"
def friendlyName : String := "NimBLE Proxy"
def model : String := "esp32-s3-devkitc"
def manufacturer : String := "Custom"
def fakeEsphomeVersion : String := "2026.5.0"
def apiVersionMajor : UInt32 := 1
def apiVersionMinor : UInt32 := 14

/-- `BT_PROXY_FEATURE_FLAGS`. -/
def btProxyFeatureFlags : UInt32 :=
  ((1 : UInt32) <<< 0) ||| ((1 : UInt32) <<< 1) ||| ((1 : UInt32) <<< 2) ||| ((1 : UInt32) <<< 5)

abbrev Mac := Vector UInt8 6

structure Identity where
  /-- `g_hostname` -/
  hostname : String
  /-- `esp_read_mac` for the station and for Bluetooth; it may fail -/
  wifiMac : Option Mac
  btMac : Option Mac
  /-- `__DATE__` and `__TIME__` -/
  date : String
  time : String
  /-- `CONFIG_NBP_BLE` -/
  ble : Bool

/-- `snprintf` into a field of `n + 1` bytes. -/
def printed (n : Nat) (text : List UInt8) : Sized UInt8 n :=
  ⟨text.take n, List.length_take_le n text⟩

/-- `"%02X:%02X:%02X:%02X:%02X:%02X"`. -/
def macText (mac : Mac) : List UInt8 :=
  [58].intercalate (mac.toList.map hex02)

/-- `format_mac`; the field keeps its zeros when the address cannot be read. -/
def formatMac : Option Mac → Sized UInt8 17
  | some mac => printed 17 (macText mac)
  | none => ⟨[], by decide⟩

def helloResponse (id : Identity) : HelloResponse where
  apiVersionMajor := apiVersionMajor
  apiVersionMinor := apiVersionMinor
  serverInfo := printed 31 (ascii "nimble-ble-proxy " ++ ascii version)
  name := printed 30 (ascii id.hostname)

def deviceInfoResponse (id : Identity) : DeviceInfoResponse where
  usesPassword := false
  name := printed 31 (ascii id.hostname)
  macAddress := formatMac id.wifiMac
  esphomeVersion := printed 31 (ascii fakeEsphomeVersion)
  compilationTime := printed 31 (ascii id.date ++ 32 :: ascii id.time)
  model := printed 31 (ascii model)
  manufacturer := printed 31 (ascii manufacturer)
  friendlyName := printed 63 (ascii friendlyName)
  bluetoothProxyFeatureFlags := if id.ble then btProxyFeatureFlags else 0
  bluetoothMacAddress := formatMac id.btMac

/-! ## handle -/

/-- `handshake::Result`, with the payload at `response_buf`. -/
structure Result where
  handled : Bool
  responseType : UInt16
  payload : List UInt8
  closeAfter : Bool
  deriving DecidableEq

/-- `handle`. `encode_into` gives up on a message that does not fit, like the callbacks of
`send_async`. -/
def handle (id : Identity) (requestType : UInt16) (responseCap : Nat) : Result :=
  match requestType.toNat with
  | 1 => ⟨true, 2, pbEncode (helloResponse id).encode responseCap, false⟩
  | 3 => ⟨true, 4, pbEncode (boolField 1 false) responseCap, false⟩
  | 9 => ⟨true, 10, pbEncode (deviceInfoResponse id).encode responseCap, false⟩
  | 7 => ⟨true, 8, [], false⟩
  | 11 => ⟨true, 19, [], false⟩
  | 5 => ⟨true, 6, [], true⟩
  | 28 => ⟨true, 0, [], false⟩
  | _ => ⟨false, 0, [], false⟩

/-- The record that answers a request. -/
def reply (id : Identity) (request : Message) : Option Response :=
  match request.type.toNat with
  | 1 => some (.hello (helloResponse id))
  | 3 => some (.connect false)
  | 5 => some .disconnect
  | 7 => some .ping
  | 9 => some (.deviceInfo (deviceInfoResponse id))
  | 11 => some .listEntitiesDone
  | _ => none

/-- The result that tells `dispatch_one` to send a record. -/
def Result.sends (closeAfter : Bool) (r : Response) : Result := ⟨true, r.type, r.encode, closeAfter⟩

/-- **What a request gets.** With the room of the payload area, the record that answers it, in
full, and the connection stays open unless a disconnect was asked for. SubscribeLogs gets
nothing; anything else is left to the Bluetooth handlers. -/
theorem handle_eq (id : Identity) (request : Message) :
    handle id request.type 2048 =
      match reply id request with
      | some r => Result.sends (request.type.toNat = 5) r
      | none => ⟨request.type.toNat = 28, 0, [], false⟩ := by
  have hello : pbEncode (helloResponse id).encode 2048 = (helloResponse id).encode :=
    if_pos (length_hello _)
  have deviceInfo : pbEncode (deviceInfoResponse id).encode 2048 = (deviceInfoResponse id).encode :=
    if_pos (length_deviceInfo _)
  unfold handle reply
  generalize request.type.toNat = n
  split
  · rw [hello]
    rfl
  · rfl
  · rw [deviceInfo]
    rfl
  · rfl
  · rfl
  · rfl
  · rfl
  · rename_i others
    split <;> simp_all

/-- The answers are handshake messages, with room for each. -/
theorem reply_cases {id : Identity} {request : Message} {r : Response}
    (answers : reply id request = some r) : r.Fits ∧ r.type.toNat < 66 := by
  unfold reply at answers
  split at answers
  · cases answers
    exact ⟨length_hello _, by simp [Response.type]⟩
  · cases answers
    exact ⟨length_encode_le _ (by simp), by simp [Response.type]⟩
  · cases answers
    exact ⟨length_encode_le _ (by simp), by simp [Response.type]⟩
  · cases answers
    exact ⟨length_encode_le _ (by simp), by simp [Response.type]⟩
  · cases answers
    exact ⟨length_deviceInfo _, by simp [Response.type]⟩
  · cases answers
    exact ⟨length_encode_le _ (by simp), by simp [Response.type]⟩
  · cases answers

/-! ## Nothing is cut -/

@[simp] theorem printed_of_short {n : Nat} {text : List UInt8} (short : text.length ≤ n) :
    (printed n text).val = text := List.take_of_length_le short

theorem length_ascii (s : String) : (ascii s).length = s.toList.length := by
  simp [ascii]

/-- The name of a valid hostname, in both answers. -/
theorem hello_name {id : Identity} (valid : Hostname.isValidHostname id.hostname = true) :
    (helloResponse id).name.val = ascii id.hostname ∧
      (deviceInfoResponse id).name.val = ascii id.hostname := by
  have short : (ascii id.hostname).length ≤ 30 := by
    rw [length_ascii]
    simp [Hostname.isValidHostname] at valid
    exact valid.1.2
  exact ⟨printed_of_short short, printed_of_short (short.trans (by decide))⟩

end NimbleProxy.Api.Handshake
