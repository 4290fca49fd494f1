/-
# Api.Messages -- the messages of the proxy, written and read back

`api_subset.proto` has the messages, `api_subset.options` the sizes of their strings and
arrays, `api_proto.h` the numbers under which they are framed. A `Response` is any message
the proxy sends; `Response.encode` is what `pb_encode` makes of it, `Response.message` what
is framed. The bounds of the generated types are in the types here.

`Response.decode` is the other end: a proto3 reader with the field numbers of the `.proto`.
It gives every message back that fits the payload area (`decode_message`), and all do but
the answer to a discovery (`length_encode_le`). A client that takes the frames off its
stream therefore sees the records the proxy sent (`responses_round_trip`).
-/
import NimbleProxy.Theory.ProtoReader
import NimbleProxy.Backend.AdvertBatching
import NimbleProxy.Api.FrameReading
import NimbleProxy.Api.FreeMessages
import NimbleProxy.Api.Devices

namespace NimbleProxy.Api.Messages

open NimbleProxy.Theory NimbleProxy.Theory.Protobuf
open NimbleProxy.Api.FrameCodec (Message)
open NimbleProxy.Api.FreeMessages (FreeMessage)
open NimbleProxy.Backend.GattDiscovery
open NimbleProxy.Backend.AdvertBatching (RawAdvertisement)

set_option autoImplicit false

/-! ## Bounded strings and arrays -/

/-- At most `n` elements. -/
abbrev Sized (α : Type) (n : Nat) := { xs : List α // xs.length ≤ n }

/-- The elements, unless they are too many. -/
def sized {α : Type} (n : Nat) (xs : List α) : Option (Sized α n) :=
  if fits : xs.length ≤ n then some ⟨xs, fits⟩ else none

@[simp] theorem sized_val {α : Type} {n : Nat} (xs : Sized α n) : sized n xs.val = some xs :=
  dif_pos xs.property

/-! ## Records -/

structure HelloResponse where
  apiVersionMajor : UInt32
  apiVersionMinor : UInt32
  serverInfo : Sized UInt8 31
  name : Sized UInt8 30
  deriving DecidableEq

structure DeviceInfoResponse where
  usesPassword : Bool
  name : Sized UInt8 31
  macAddress : Sized UInt8 17
  esphomeVersion : Sized UInt8 31
  compilationTime : Sized UInt8 31
  model : Sized UInt8 31
  manufacturer : Sized UInt8 31
  friendlyName : Sized UInt8 63
  bluetoothProxyFeatureFlags : UInt32
  bluetoothMacAddress : Sized UInt8 17
  deriving DecidableEq

/-- `BluetoothDeviceConnectionResponse`. -/
structure DeviceConnectionResponse where
  address : UInt64
  connected : Bool
  mtu : UInt32
  error : Int32
  deriving DecidableEq

/-- `BluetoothConnectionsFreeResponse`. -/
structure ConnectionsFreeResponse where
  free : UInt32
  limit : UInt32
  allocated : Sized UInt64 4
  deriving DecidableEq

/-- `BluetoothGATTReadResponse` and `BluetoothGATTNotifyDataResponse`. -/
structure GattData where
  address : UInt64
  handle : UInt32
  data : Sized UInt8 512
  deriving DecidableEq

/-- `BluetoothGATTWriteResponse` and `BluetoothGATTNotifyResponse`. -/
structure GattHandle where
  address : UInt64
  handle : UInt32
  deriving DecidableEq

/-- What the proxy sends. -/
inductive Response
  | hello (r : HelloResponse)
  | connect (invalidPassword : Bool)
  | disconnect
  | ping
  | deviceInfo (r : DeviceInfoResponse)
  | listEntitiesDone
  | deviceConnection (r : DeviceConnectionResponse)
  | services (r : GetServicesResponse)
  | servicesDone (address : UInt64)
  | read (r : GattData)
  | notifyData (r : GattData)
  | connectionsFree (r : ConnectionsFreeResponse)
  | gattError (e : GattErrorResponse)
  | write (r : GattHandle)
  | notify (r : GattHandle)
  | rawAdvertisements (records : Sized RawAdvertisement 16)

/-- `proxyapi::MessageId`. -/
def Response.type : Response → UInt16
  | .hello _ => 2
  | .connect _ => 4
  | .disconnect => 6
  | .ping => 8
  | .deviceInfo _ => 10
  | .listEntitiesDone => 19
  | .deviceConnection _ => 69
  | .services _ => msgGetServicesResponse
  | .servicesDone _ => msgGetServicesDoneResponse
  | .read _ => 74
  | .notifyData _ => 79
  | .connectionsFree _ => 81
  | .gattError _ => msgErrorResponse
  | .write _ => 83
  | .notify _ => 84
  | .rawAdvertisements _ => 93

/-! ## Writing -/

def boolField (field : Nat) (b : Bool) : List UInt8 := varintField field b.toNat

/-- A negative `int32` is written as 64 bits. -/
def int32Field (field : Nat) (v : Int32) : List UInt8 :=
  varintField field v.toInt64.toUInt64.toNat

def HelloResponse.encode (r : HelloResponse) : List UInt8 :=
  varintField 1 r.apiVersionMajor.toNat ++ varintField 2 r.apiVersionMinor.toNat ++
    bytesField 3 r.serverInfo.val ++ bytesField 4 r.name.val

def DeviceInfoResponse.encode (r : DeviceInfoResponse) : List UInt8 :=
  boolField 1 r.usesPassword ++ bytesField 2 r.name.val ++ bytesField 3 r.macAddress.val ++
    bytesField 4 r.esphomeVersion.val ++ bytesField 5 r.compilationTime.val ++
    bytesField 6 r.model.val ++ bytesField 12 r.manufacturer.val ++
    bytesField 13 r.friendlyName.val ++ varintField 15 r.bluetoothProxyFeatureFlags.toNat ++
    bytesField 18 r.bluetoothMacAddress.val

def DeviceConnectionResponse.encode (r : DeviceConnectionResponse) : List UInt8 :=
  varintField 1 r.address.toNat ++ boolField 2 r.connected ++ varintField 3 r.mtu.toNat ++
    int32Field 4 r.error

def ConnectionsFreeResponse.encode (r : ConnectionsFreeResponse) : List UInt8 :=
  varintField 1 r.free.toNat ++ varintField 2 r.limit.toNat ++
    packedField 3 (r.allocated.val.map UInt64.toNat)

def GattData.encode (r : GattData) : List UInt8 :=
  varintField 1 r.address.toNat ++ varintField 2 r.handle.toNat ++ bytesField 3 r.data.val

def GattHandle.encode (r : GattHandle) : List UInt8 :=
  varintField 1 r.address.toNat ++ varintField 2 r.handle.toNat

/-- What `pb_encode` makes of a message, given the room. -/
def Response.encode : Response → List UInt8
  | .hello r => r.encode
  | .connect invalidPassword => boolField 1 invalidPassword
  | .disconnect | .ping | .listEntitiesDone => []
  | .deviceInfo r => r.encode
  | .deviceConnection r => r.encode
  | .services r => r.encode
  | .servicesDone address => encodeDone address
  | .read r | .notifyData r => r.encode
  | .connectionsFree r => r.encode
  | .gattError e => e.encode
  | .write r | .notify r => r.encode
  | .rawAdvertisements records => repeatedField 1 (records.val.map RawAdvertisement.encode)

/-- What is framed. -/
def Response.message (r : Response) : Message := ⟨r.type, r.encode⟩

/-! ## Reading -/

/-- An `int32` from the 64 bits it was written as. -/
def int32 (n : Nat) : Int32 := (UInt64.ofNat n).toInt64.toInt32

def HelloResponse.decode (bytes : List UInt8) : Option HelloResponse := do
  let fs ← fields bytes
  let serverInfo ← sized 31 (content 3 fs)
  let name ← sized 30 (content 4 fs)
  return ⟨.ofNat (number 1 fs), .ofNat (number 2 fs), serverInfo, name⟩

def DeviceInfoResponse.decode (bytes : List UInt8) : Option DeviceInfoResponse := do
  let fs ← fields bytes
  let name ← sized 31 (content 2 fs)
  let macAddress ← sized 17 (content 3 fs)
  let esphomeVersion ← sized 31 (content 4 fs)
  let compilationTime ← sized 31 (content 5 fs)
  let model ← sized 31 (content 6 fs)
  let manufacturer ← sized 31 (content 12 fs)
  let friendlyName ← sized 63 (content 13 fs)
  let bluetoothMacAddress ← sized 17 (content 18 fs)
  return ⟨number 1 fs != 0, name, macAddress, esphomeVersion, compilationTime, model,
    manufacturer, friendlyName, .ofNat (number 15 fs), bluetoothMacAddress⟩

def DeviceConnectionResponse.decode (bytes : List UInt8) : Option DeviceConnectionResponse := do
  let fs ← fields bytes
  return ⟨.ofNat (number 1 fs), number 2 fs != 0, .ofNat (number 3 fs), int32 (number 4 fs)⟩

def ConnectionsFreeResponse.decode (bytes : List UInt8) : Option ConnectionsFreeResponse := do
  let fs ← fields bytes
  let numbers ← scalars 3 fs
  let allocated ← sized 4 (numbers.map UInt64.ofNat)
  return ⟨.ofNat (number 1 fs), .ofNat (number 2 fs), allocated⟩

def GattData.decode (bytes : List UInt8) : Option GattData := do
  let fs ← fields bytes
  let data ← sized 512 (content 3 fs)
  return ⟨.ofNat (number 1 fs), .ofNat (number 2 fs), data⟩

def GattHandle.decode (bytes : List UInt8) : Option GattHandle := do
  let fs ← fields bytes
  return ⟨.ofNat (number 1 fs), .ofNat (number 2 fs)⟩

def decodeError (bytes : List UInt8) : Option GattErrorResponse := do
  let fs ← fields bytes
  return ⟨.ofNat (number 1 fs), .ofNat (number 2 fs), int32 (number 3 fs)⟩

def decodeAddress (bytes : List UInt8) : Option UInt64 := do
  let fs ← fields bytes
  return .ofNat (number 1 fs)

def decodeBool (bytes : List UInt8) : Option Bool := do
  let fs ← fields bytes
  return number 1 fs != 0

/-- The two halves of a UUID. -/
def uuidOf (fs : List Field) : Option (List UInt64) :=
  (scalars 1 fs).map fun numbers => numbers.map UInt64.ofNat

def decodeDescriptor (bytes : List UInt8) : Option GattDescriptor := do
  let fs ← fields bytes
  let uuid ← uuidOf fs
  return ⟨uuid, .ofNat (number 2 fs), .ofNat (number 3 fs)⟩

def decodeCharacteristic (bytes : List UInt8) : Option GattCharacteristic := do
  let fs ← fields bytes
  let uuid ← uuidOf fs
  let descriptors ← (contents 4 fs).mapM decodeDescriptor
  return ⟨uuid, .ofNat (number 2 fs), .ofNat (number 3 fs), descriptors, .ofNat (number 5 fs)⟩

def decodeService (bytes : List UInt8) : Option GattService := do
  let fs ← fields bytes
  let uuid ← uuidOf fs
  let characteristics ← (contents 3 fs).mapM decodeCharacteristic
  return ⟨uuid, .ofNat (number 2 fs), characteristics, .ofNat (number 4 fs)⟩

def decodeServices (bytes : List UInt8) : Option GetServicesResponse := do
  let fs ← fields bytes
  let services ← (contents 2 fs).mapM decodeService
  return ⟨.ofNat (number 1 fs), services⟩

/-- A Bluetooth address has six bytes. -/
def decodeAdvertisement (bytes : List UInt8) : Option RawAdvertisement := do
  let fs ← fields bytes
  if fits : (UInt64.ofNat (number 1 fs)).toNat < 2 ^ 48 ∧ (content 4 fs).length ≤ 62 then
    return { address := .ofNat (number 1 fs), rssi := .ofInt (unzigzag (number 2 fs)),
             addressType := .ofNat (number 3 fs), data := content 4 fs,
             sixBytes := fits.1, fits := fits.2 }
  else none

def decodeAdvertisements (bytes : List UInt8) : Option (Sized RawAdvertisement 16) := do
  let fs ← fields bytes
  let records ← (contents 1 fs).mapM decodeAdvertisement
  sized 16 records

/-- What a client makes of a message. -/
def Response.decode (m : Message) : Option Response :=
  match m.type.toNat with
  | 2 => (HelloResponse.decode m.payload).map .hello
  | 4 => (decodeBool m.payload).map .connect
  | 6 => some .disconnect
  | 8 => some .ping
  | 10 => (DeviceInfoResponse.decode m.payload).map .deviceInfo
  | 19 => some .listEntitiesDone
  | 69 => (DeviceConnectionResponse.decode m.payload).map .deviceConnection
  | 71 => (decodeServices m.payload).map .services
  | 72 => (decodeAddress m.payload).map .servicesDone
  | 74 => (GattData.decode m.payload).map .read
  | 79 => (GattData.decode m.payload).map .notifyData
  | 81 => (ConnectionsFreeResponse.decode m.payload).map .connectionsFree
  | 82 => (decodeError m.payload).map .gattError
  | 83 => (GattHandle.decode m.payload).map .write
  | 84 => (GattHandle.decode m.payload).map .notify
  | 93 => (decodeAdvertisements m.payload).map .rawAdvertisements
  | _ => none

/-! ## Fields of a certain type -/

section

variable {k : Nat}

theorem writes_uint32 (pos : 0 < k) (small : k < 2 ^ 29) (v : UInt32) :
    Writes (varintField k v.toNat) (varintFields k v.toNat) :=
  writes_varintField pos small (v.toNat_lt.trans (by decide))

theorem writes_uint64 (pos : 0 < k) (small : k < 2 ^ 29) (v : UInt64) :
    Writes (varintField k v.toNat) (varintFields k v.toNat) :=
  writes_varintField pos small v.toNat_lt

theorem writes_bool (pos : 0 < k) (small : k < 2 ^ 29) (b : Bool) :
    Writes (boolField k b) (varintFields k b.toNat) :=
  writes_varintField pos small (b.toNat_lt.trans (by decide))

theorem writes_int32 (pos : 0 < k) (small : k < 2 ^ 29) (v : Int32) :
    Writes (int32Field k v) (varintFields k v.toInt64.toUInt64.toNat) :=
  writes_uint64 pos small v.toInt64.toUInt64

theorem zigzag_int32_lt (v : Int32) : zigzag v.toInt < 2 ^ 64 := by
  have signed : zigzag v.toInt < 2 * 2 ^ 31 :=
    zigzag_lt (by simpa using v.le_toInt) (by simpa using v.toInt_lt)
  exact signed.trans (by decide)

theorem writes_sized {n : Nat} (pos : 0 < k) (small : k < 2 ^ 29) (short : n < 2 ^ 64)
    (b : Sized UInt8 n) : Writes (bytesField k b.val) (bytesFields k b.val) :=
  writes_bytesField pos small (b.property.trans_lt short)

theorem toNat_map_lt (vs : List UInt64) : ∀ v ∈ vs.map UInt64.toNat, v < 2 ^ 64 := by
  intro v inside
  obtain ⟨w, -, rfl⟩ := List.mem_map.mp inside
  exact w.toNat_lt

@[simp] theorem ofNat_comp_toNat : UInt64.ofNat ∘ UInt64.toNat = id := by
  funext v
  exact UInt64.ofNat_toNat

@[simp] theorem toNat_bne_zero (b : Bool) : (b.toNat != 0) = b := by
  cases b <;> rfl

@[simp] theorem int32_toNat (v : Int32) : int32 v.toInt64.toUInt64.toNat = v := by
  simp [int32]

end

/-! ## Every record is read back -/

theorem decode_hello (r : HelloResponse) : HelloResponse.decode r.encode = some r := by
  have writes := (((writes_uint32 (k := 1) (by decide) (by decide) r.apiVersionMajor).append
    (writes_uint32 (k := 2) (by decide) (by decide) r.apiVersionMinor)).append
    (writes_sized (k := 3) (by decide) (by decide) (by decide) r.serverInfo)).append
    (writes_sized (k := 4) (by decide) (by decide) (by decide) r.name)
  rw [HelloResponse.decode, HelloResponse.encode, writes.fields_eq]
  simp [number, content]

/-- The fields that are on the wire. -/
def DeviceInfoResponse.written (r : DeviceInfoResponse) : List Protobuf.Field :=
  varintFields 1 r.usesPassword.toNat ++ bytesFields 2 r.name.val ++
    bytesFields 3 r.macAddress.val ++ bytesFields 4 r.esphomeVersion.val ++
    bytesFields 5 r.compilationTime.val ++ bytesFields 6 r.model.val ++
    bytesFields 12 r.manufacturer.val ++ bytesFields 13 r.friendlyName.val ++
    varintFields 15 r.bluetoothProxyFeatureFlags.toNat ++ bytesFields 18 r.bluetoothMacAddress.val

theorem writes_deviceInfo (r : DeviceInfoResponse) : Writes r.encode r.written := by
  have identity := ((writes_bool (k := 1) (by decide) (by decide) r.usesPassword).append
    (writes_sized (k := 2) (by decide) (by decide) (by decide) r.name)).append
    (writes_sized (k := 3) (by decide) (by decide) (by decide) r.macAddress)
  have build := ((identity.append
    (writes_sized (k := 4) (by decide) (by decide) (by decide) r.esphomeVersion)).append
    (writes_sized (k := 5) (by decide) (by decide) (by decide) r.compilationTime)).append
    (writes_sized (k := 6) (by decide) (by decide) (by decide) r.model)
  exact (((build.append
    (writes_sized (k := 12) (by decide) (by decide) (by decide) r.manufacturer)).append
    (writes_sized (k := 13) (by decide) (by decide) (by decide) r.friendlyName)).append
    (writes_uint32 (k := 15) (by decide) (by decide) r.bluetoothProxyFeatureFlags)).append
    (writes_sized (k := 18) (by decide) (by decide) (by decide) r.bluetoothMacAddress)

theorem decode_deviceInfo (r : DeviceInfoResponse) :
    DeviceInfoResponse.decode r.encode = some r := by
  have usesPassword : number 1 r.written = r.usesPassword.toNat := by
    simp [DeviceInfoResponse.written, number]
  have name : content 2 r.written = r.name.val := by
    simp [DeviceInfoResponse.written, content]
  have macAddress : content 3 r.written = r.macAddress.val := by
    simp [DeviceInfoResponse.written, content]
  have esphomeVersion : content 4 r.written = r.esphomeVersion.val := by
    simp [DeviceInfoResponse.written, content]
  have compilationTime : content 5 r.written = r.compilationTime.val := by
    simp [DeviceInfoResponse.written, content]
  have model : content 6 r.written = r.model.val := by
    simp [DeviceInfoResponse.written, content]
  have manufacturer : content 12 r.written = r.manufacturer.val := by
    simp [DeviceInfoResponse.written, content]
  have friendlyName : content 13 r.written = r.friendlyName.val := by
    simp [DeviceInfoResponse.written, content]
  have flags : number 15 r.written = r.bluetoothProxyFeatureFlags.toNat := by
    simp [DeviceInfoResponse.written, number]
  have bluetoothMacAddress : content 18 r.written = r.bluetoothMacAddress.val := by
    simp [DeviceInfoResponse.written, content]
  rw [DeviceInfoResponse.decode, (writes_deviceInfo r).fields_eq]
  simp only [Option.bind_eq_bind, Option.bind_some, usesPassword, name, macAddress, esphomeVersion,
    compilationTime, model, manufacturer, friendlyName, flags, bluetoothMacAddress, sized_val,
    toNat_bne_zero, UInt32.ofNat_toNat]
  rfl

theorem decode_deviceConnection (r : DeviceConnectionResponse) :
    DeviceConnectionResponse.decode r.encode = some r := by
  have writes := (((writes_uint64 (k := 1) (by decide) (by decide) r.address).append
    (writes_bool (k := 2) (by decide) (by decide) r.connected)).append
    (writes_uint32 (k := 3) (by decide) (by decide) r.mtu)).append
    (writes_int32 (k := 4) (by decide) (by decide) r.error)
  rw [DeviceConnectionResponse.decode, DeviceConnectionResponse.encode, writes.fields_eq]
  simp [number]

theorem decode_data (r : GattData) : GattData.decode r.encode = some r := by
  have writes := ((writes_uint64 (k := 1) (by decide) (by decide) r.address).append
    (writes_uint32 (k := 2) (by decide) (by decide) r.handle)).append
    (writes_sized (k := 3) (by decide) (by decide) (by decide) r.data)
  rw [GattData.decode, GattData.encode, writes.fields_eq]
  simp [number, content]

theorem decode_handle (r : GattHandle) : GattHandle.decode r.encode = some r := by
  have writes := (writes_uint64 (k := 1) (by decide) (by decide) r.address).append
    (writes_uint32 (k := 2) (by decide) (by decide) r.handle)
  rw [GattHandle.decode, GattHandle.encode, writes.fields_eq]
  simp [number]

theorem decode_error (e : GattErrorResponse) : decodeError e.encode = some e := by
  have writes := ((writes_uint64 (k := 1) (by decide) (by decide) e.address).append
    (writes_uint32 (k := 2) (by decide) (by decide) e.handle)).append
    (writes_int32 (k := 3) (by decide) (by decide) e.error)
  unfold int32Field at writes
  rw [decodeError, GattErrorResponse.encode, writes.fields_eq]
  simp [number]

theorem decode_done (address : UInt64) : decodeAddress (encodeDone address) = some address := by
  have writes := writes_uint64 (k := 1) (by decide) (by decide) address
  rw [decodeAddress, encodeDone, writes.fields_eq]
  simp [number]

theorem decode_bool (b : Bool) : decodeBool (boolField 1 b) = some b := by
  have writes := writes_bool (k := 1) (by decide) (by decide) b
  rw [decodeBool, writes.fields_eq]
  simp [number]

theorem decode_connectionsFree (r : ConnectionsFreeResponse)
    (short : r.encode.length < 2 ^ 64) : ConnectionsFreeResponse.decode r.encode = some r := by
  have elements : ((r.allocated.val.map UInt64.toNat).flatMap Varint.encode).length < 2 ^ 64 := by
    have part := length_le_packedField (k := 3) (r.allocated.val.map UInt64.toNat)
    simp only [ConnectionsFreeResponse.encode, List.length_append] at short
    omega
  have writes := ((writes_uint32 (k := 1) (by decide) (by decide) r.free).append
    (writes_uint32 (k := 2) (by decide) (by decide) r.limit)).append
    (writes_packedField (k := 3) (by decide) (by decide) elements)
  rw [ConnectionsFreeResponse.decode, ConnectionsFreeResponse.encode, writes.fields_eq]
  simp [number, scalars_append, scalars_packedFields (toNat_map_lt _)]

theorem decode_advertisement (r : RawAdvertisement) : decodeAdvertisement r.encode = some r := by
  have short : r.data.length < 2 ^ 64 := r.fits.trans_lt (by decide)
  have writes := (((writes_uint64 (k := 1) (by decide) (by decide) r.address).append
    (writes_varintField (k := 2) (by decide) (by decide) (zigzag_int32_lt r.rssi))).append
    (writes_uint32 (k := 3) (by decide) (by decide) r.addressType)).append
    (writes_bytesField (k := 4) (by decide) (by decide) short)
  have sixBytes : r.address.toNat < 281474976710656 := r.sixBytes
  unfold RawAdvertisement.encode sintField decodeAdvertisement
  rw [writes.fields_eq]
  simp [number, content, sixBytes, r.fits]

/-! ## Services in services -/

theorem decode_descriptor (d : GattDescriptor) (short : d.encode.length < 2 ^ 64) :
    decodeDescriptor d.encode = some d := by
  have elements : ((d.uuid.map UInt64.toNat).flatMap Varint.encode).length < 2 ^ 64 := by
    have part := length_le_packedField (k := 1) (d.uuid.map UInt64.toNat)
    simp only [GattDescriptor.encode, uuidField, List.length_append] at short
    omega
  have writes := ((writes_packedField (k := 1) (by decide) (by decide) elements).append
    (writes_uint32 (k := 2) (by decide) (by decide) d.handle)).append
    (writes_uint32 (k := 3) (by decide) (by decide) d.shortUuid)
  rw [decodeDescriptor, GattDescriptor.encode, uuidField, writes.fields_eq]
  simp [number, uuidOf, scalars_append, scalars_packedFields (toNat_map_lt _)]

/-- The elements of a repeated message are no longer than the message. -/
theorem elements_lt {k : Nat} {es : List (List UInt8)} (short : (repeatedField k es).length < 2 ^ 64) :
    ∀ e ∈ es, e.length < 2 ^ 64 := by
  intro e inside
  exact (length_le_repeatedField inside).trans_lt short

theorem decode_characteristic (c : GattCharacteristic) (short : c.encode.length < 2 ^ 64) :
    decodeCharacteristic c.encode = some c := by
  simp only [GattCharacteristic.encode, uuidField, List.length_append] at short
  have elements : ((c.uuid.map UInt64.toNat).flatMap Varint.encode).length < 2 ^ 64 := by
    have part := length_le_packedField (k := 1) (c.uuid.map UInt64.toNat)
    omega
  have each : ∀ e ∈ c.descriptors.map GattDescriptor.encode, e.length < 2 ^ 64 :=
    elements_lt (k := 4) (by omega)
  have descriptors : (c.descriptors.map GattDescriptor.encode).mapM decodeDescriptor =
      some c.descriptors :=
    mapM_encode fun d inside => decode_descriptor d (each _ (List.mem_map_of_mem inside))
  have writes := ((((writes_packedField (k := 1) (by decide) (by decide) elements).append
    (writes_uint32 (k := 2) (by decide) (by decide) c.handle)).append
    (writes_uint32 (k := 3) (by decide) (by decide) c.properties)).append
    (writes_repeatedField (k := 4) (by decide) (by decide) each)).append
    (writes_uint32 (k := 5) (by decide) (by decide) c.shortUuid)
  rw [decodeCharacteristic, GattCharacteristic.encode, uuidField, writes.fields_eq]
  simp [number, uuidOf, scalars_append, scalars_packedFields (toNat_map_lt _), descriptors]

theorem decode_service (s : GattService) (short : s.encode.length < 2 ^ 64) :
    decodeService s.encode = some s := by
  simp only [GattService.encode, uuidField, List.length_append] at short
  have elements : ((s.uuid.map UInt64.toNat).flatMap Varint.encode).length < 2 ^ 64 := by
    have part := length_le_packedField (k := 1) (s.uuid.map UInt64.toNat)
    omega
  have each : ∀ e ∈ s.characteristics.map GattCharacteristic.encode, e.length < 2 ^ 64 :=
    elements_lt (k := 3) (by omega)
  have characteristics : (s.characteristics.map GattCharacteristic.encode).mapM
      decodeCharacteristic = some s.characteristics :=
    mapM_encode fun c inside => decode_characteristic c (each _ (List.mem_map_of_mem inside))
  have writes := (((writes_packedField (k := 1) (by decide) (by decide) elements).append
    (writes_uint32 (k := 2) (by decide) (by decide) s.handle)).append
    (writes_repeatedField (k := 3) (by decide) (by decide) each)).append
    (writes_uint32 (k := 4) (by decide) (by decide) s.shortUuid)
  rw [decodeService, GattService.encode, uuidField, writes.fields_eq]
  simp [number, uuidOf, scalars_append, scalars_packedFields (toNat_map_lt _), characteristics]

theorem decode_services (r : GetServicesResponse) (short : r.encode.length < 2 ^ 64) :
    decodeServices r.encode = some r := by
  simp only [GetServicesResponse.encode, List.length_append] at short
  have each : ∀ e ∈ r.services.map GattService.encode, e.length < 2 ^ 64 :=
    elements_lt (k := 2) (by omega)
  have services : (r.services.map GattService.encode).mapM decodeService = some r.services :=
    mapM_encode fun s inside => decode_service s (each _ (List.mem_map_of_mem inside))
  have writes := (writes_uint64 (k := 1) (by decide) (by decide) r.address).append
    (writes_repeatedField (k := 2) (by decide) (by decide) each)
  rw [decodeServices, GetServicesResponse.encode, writes.fields_eq]
  simp [number, services]

theorem decode_advertisements (records : Sized RawAdvertisement 16) :
    decodeAdvertisements (repeatedField 1 (records.val.map RawAdvertisement.encode)) =
      some records := by
  have each : ∀ e ∈ records.val.map RawAdvertisement.encode, e.length < 2 ^ 64 := by
    intro e inside
    obtain ⟨r, -, rfl⟩ := List.mem_map.mp inside
    exact (Backend.AdvertBatching.length_record_le r).trans_lt (by decide)
  have all : (records.val.map RawAdvertisement.encode).mapM decodeAdvertisement =
      some records.val := mapM_encode fun r _ => decode_advertisement r
  have writes := writes_repeatedField (k := 1) (by decide) (by decide) each
  rw [decodeAdvertisements, writes.fields_eq]
  simp [all]

/-- **A message that is sent is read back as the record it was made from.** -/
theorem decode_message (r : Response) (short : r.encode.length < 2 ^ 64) :
    Response.decode r.message = some r := by
  cases r with
  | hello r => exact congrArg (Option.map Response.hello) (decode_hello r)
  | connect invalidPassword => exact congrArg (Option.map Response.connect) (decode_bool invalidPassword)
  | disconnect | ping | listEntitiesDone => rfl
  | deviceInfo r => exact congrArg (Option.map Response.deviceInfo) (decode_deviceInfo r)
  | deviceConnection r => exact congrArg (Option.map Response.deviceConnection) (decode_deviceConnection r)
  | services r => exact congrArg (Option.map Response.services) (decode_services r short)
  | servicesDone address => exact congrArg (Option.map Response.servicesDone) (decode_done address)
  | read r => exact congrArg (Option.map Response.read) (decode_data r)
  | notifyData r => exact congrArg (Option.map Response.notifyData) (decode_data r)
  | connectionsFree r => exact congrArg (Option.map Response.connectionsFree) (decode_connectionsFree r short)
  | gattError e => exact congrArg (Option.map Response.gattError) (decode_error e)
  | write r => exact congrArg (Option.map Response.write) (decode_handle r)
  | notify r => exact congrArg (Option.map Response.notify) (decode_handle r)
  | rawAdvertisements records =>
      exact congrArg (Option.map Response.rawAdvertisements) (decode_advertisements records)

/-! ## Every record fits, but for the services -/

theorem length_uint32 {k : Nat} (small : k < 16) (v : UInt32) :
    (varintField k v.toNat).length ≤ 6 := by
  rw [length_varintField]
  exact varintFieldSize_le k v.toNat 4 small (v.toNat_lt.trans (by decide))

theorem length_uint64 {k : Nat} (small : k < 16) (v : UInt64) :
    (varintField k v.toNat).length ≤ 11 := by
  rw [length_varintField]
  exact varintFieldSize_le k v.toNat 9 small (v.toNat_lt.trans (by decide))

theorem length_bool {k : Nat} (small : k < 16) (b : Bool) : (boolField k b).length ≤ 2 := by
  rw [boolField, length_varintField]
  exact varintFieldSize_le k b.toNat 0 small (b.toNat_lt.trans (by decide))

theorem tagSize_le (k : Nat) (small : k < 2 ^ 11) (wire : WireType) : tagSize k wire ≤ 2 := by
  unfold tagSize
  rw [Varint.size_le_iff]
  cases wire <;> simp only [WireType.code] <;> omega

/-- A string of at most 16383 bytes has two bytes of tag and two of length at most. -/
theorem length_sized {k n : Nat} (small : k < 2 ^ 11) (short : n < 128 ^ 2) (b : Sized UInt8 n) :
    (bytesField k b.val).length ≤ n + 4 := by
  unfold bytesField
  split
  · exact Nat.zero_le _
  · have bytes := b.property
    have length := (Varint.size_le_iff b.val.length 1).mpr (bytes.trans_lt short)
    have tagged := tagSize_le k small .len
    rw [length_lenField, lenFieldSize]
    omega

theorem length_hello (r : HelloResponse) : r.encode.length ≤ 2048 := by
  have major := length_uint32 (k := 1) (by decide) r.apiVersionMajor
  have minor := length_uint32 (k := 2) (by decide) r.apiVersionMinor
  have serverInfo := length_sized (k := 3) (by decide) (by decide) r.serverInfo
  have name := length_sized (k := 4) (by decide) (by decide) r.name
  simp only [HelloResponse.encode, List.length_append]
  omega

theorem length_deviceInfo (r : DeviceInfoResponse) : r.encode.length ≤ 2048 := by
  have usesPassword := length_bool (k := 1) (by decide) r.usesPassword
  have name := length_sized (k := 2) (by decide) (by decide) r.name
  have macAddress := length_sized (k := 3) (by decide) (by decide) r.macAddress
  have esphomeVersion := length_sized (k := 4) (by decide) (by decide) r.esphomeVersion
  have compilationTime := length_sized (k := 5) (by decide) (by decide) r.compilationTime
  have model := length_sized (k := 6) (by decide) (by decide) r.model
  have manufacturer := length_sized (k := 12) (by decide) (by decide) r.manufacturer
  have friendlyName := length_sized (k := 13) (by decide) (by decide) r.friendlyName
  have flags := length_uint32 (k := 15) (by decide) r.bluetoothProxyFeatureFlags
  have bluetoothMacAddress := length_sized (k := 18) (by decide) (by decide) r.bluetoothMacAddress
  simp only [DeviceInfoResponse.encode, List.length_append]
  omega

theorem length_deviceConnection (r : DeviceConnectionResponse) : r.encode.length ≤ 2048 := by
  have address := length_uint64 (k := 1) (by decide) r.address
  have connected := length_bool (k := 2) (by decide) r.connected
  have mtu := length_uint32 (k := 3) (by decide) r.mtu
  have error := length_uint64 (k := 4) (by decide) r.error.toInt64.toUInt64
  simp only [DeviceConnectionResponse.encode, int32Field, List.length_append]
  omega

theorem length_data (r : GattData) : r.encode.length ≤ 2048 := by
  have address := length_uint64 (k := 1) (by decide) r.address
  have handle := length_uint32 (k := 2) (by decide) r.handle
  have data := length_sized (k := 3) (by decide) (by decide) r.data
  simp only [GattData.encode, List.length_append]
  omega

theorem length_handle (r : GattHandle) : r.encode.length ≤ 2048 := by
  have address := length_uint64 (k := 1) (by decide) r.address
  have handle := length_uint32 (k := 2) (by decide) r.handle
  simp only [GattHandle.encode, List.length_append]
  omega

/-- Four addresses of ten groups each. -/
theorem length_connectionsFree (r : ConnectionsFreeResponse) : r.encode.length ≤ 2048 := by
  have free := length_uint32 (k := 1) (by decide) r.free
  have limit := length_uint32 (k := 2) (by decide) r.limit
  have addresses : ∀ vs : List UInt64,
      ((vs.map UInt64.toNat).flatMap Varint.encode).length ≤ 10 * vs.length := by
    intro vs
    induction vs with
    | nil => exact Nat.zero_le _
    | cons v vs ih =>
        have first := size_le_ten v.toNat_lt
        rw [List.map_cons, List.flatMap_cons, List.length_append, Varint.length_encode,
          List.length_cons]
        omega
  have few := r.allocated.property
  have allocated : (packedField 3 (r.allocated.val.map UInt64.toNat)).length ≤ 44 := by
    have bytes := addresses r.allocated.val
    unfold packedField
    split
    · exact Nat.zero_le _
    · rw [length_lenField]
      have total := lenFieldSize_le 3
        ((r.allocated.val.map UInt64.toNat).flatMap Varint.encode).length (by decide) (by omega)
      omega
  simp only [ConnectionsFreeResponse.encode, List.length_append]
  omega

theorem length_advertisements (records : Sized RawAdvertisement 16) :
    (repeatedField 1 (records.val.map RawAdvertisement.encode)).length ≤ 2048 := by
  have few := records.property
  have bounded : ∀ bytes ∈ records.val.map RawAdvertisement.encode, bytes.length ≤ 84 := by
    intro bytes inside
    obtain ⟨r, -, rfl⟩ := List.mem_map.mp inside
    exact Backend.AdvertBatching.length_record_le r
  have total := length_repeatedField_le (by decide : 1 < 16) (by decide : 84 < 128) bounded
  rw [List.length_map] at total
  omega

/-- The payload area has room for every record but the services of a device. -/
theorem length_encode_le (r : Response) (other : ∀ services, r ≠ .services services) :
    r.encode.length ≤ 2048 := by
  cases r with
  | hello r => exact length_hello r
  | connect invalidPassword => exact (length_bool (by decide) invalidPassword).trans (by decide)
  | disconnect | ping | listEntitiesDone => exact Nat.zero_le _
  | deviceInfo r => exact length_deviceInfo r
  | deviceConnection r => exact length_deviceConnection r
  | services r => exact absurd rfl (other r)
  | servicesDone address => exact length_encodeDone_le address
  | read r | notifyData r => exact length_data r
  | connectionsFree r => exact length_connectionsFree r
  | gattError e => exact length_error_le e
  | write r | notify r => exact length_handle r
  | rawAdvertisements records => exact length_advertisements records

/-! ## A stream of messages -/

/-- What there is room for. -/
def Response.Fits (r : Response) : Prop := r.encode.length ≤ 2048

instance (r : Response) : Decidable r.Fits := inferInstanceAs (Decidable (_ ≤ _))

theorem type_lt (r : Response) : r.type.toNat < 2 ^ 14 := by
  cases r <;> simp only [Response.type] <;> decide

theorem type_ne_zero (r : Response) : r.type ≠ 0 := by
  cases r <;> simp only [Response.type] <;> decide

theorem Response.Fits.message {r : Response} (fits : r.Fits) : r.message.Fits 2048 :=
  ⟨type_lt r, fits, fits⟩

theorem Response.Fits.decode {r : Response} (fits : r.Fits) :
    Response.decode r.message = some r :=
  decode_message r (fits.trans_lt (by decide))

/-- **The round trip of the API.** Whatever records are framed one after the other, from
whatever the staging buffer held before, and however the stream is split on its way: a reader
that takes as many frames off it gets the same records in the same order, and is left with what
follows. A record that does not fit is a list of services. -/
theorem responses_round_trip :
    (∀ (sent : List (Memory × Response)) (src : Source) (rest : List UInt8)
      (out : FrameCodec.FrameOut), (∀ s ∈ sent, s.2.Fits) →
      src.bytes = (sent.flatMap fun s => FrameCodec.frame s.1 s.2.message) ++ rest →
      ((FrameCodec.readFrames 2048 sent.length src out).1.map Response.decode =
          sent.map fun s => some s.2) ∧
        (FrameCodec.readFrames 2048 sent.length src out).2.bytes = rest) ∧
    ∀ r : Response, r.Fits ∨ ∃ services, r = .services services := by
  refine ⟨?_, ?_⟩
  · intro sent src rest out fits stream
    have framed : ∀ s ∈ sent.map fun s => (s.1, s.2.message), s.2.Fits 2048 := by
      intro s inside
      obtain ⟨s, among, rfl⟩ := List.mem_map.mp inside
      exact (fits s among).message
    obtain ⟨messages, left_⟩ := FrameCodec.readFrames_frames
      (sent.map fun s => (s.1, s.2.message)) framed src rest
      (by rw [stream, List.flatMap_map]) out
    rw [List.length_map] at messages left_
    refine ⟨?_, left_⟩
    rw [messages, List.map_map, List.map_map]
    exact List.map_congr_left fun s inside => (fits s inside).decode
  · intro r
    by_cases services : ∃ services, r = .services services
    · exact .inr services
    · exact .inl (length_encode_le r fun other same => services ⟨other, same⟩)

/-- A service with a characteristic, a refused connection and a batch of one, byte by byte. -/
theorem responses_round_trip_bytewise :
    let services : GetServicesResponse :=
      ⟨0xAABBCCDDEEFF, [⟨[], 12, [⟨[1, 2], 14, 18, [⟨[], 15, 0x2902⟩], 0⟩], 0x180F⟩]⟩
    let sent : List (Memory × Response) :=
      [((fun _ => 255), .services services), ((fun _ => 7), .deviceConnection ⟨5, false, 0, -100⟩),
       ((fun _ => 0), .rawAdvertisements ⟨[{ address := 9, rssi := -70, data := [2, 1] }], by decide⟩)]
    let src : Source :=
      ⟨(sent.flatMap fun s => FrameCodec.frame s.1 s.2.message) ++ [42], .eof, fun _ => 0, 0⟩
    (FrameCodec.readFrames 2048 3 src ⟨fun _ => 0, 0, 0⟩).1.map Response.decode =
      [some (.services services), some (.deviceConnection ⟨5, false, 0, -100⟩),
       some (.rawAdvertisements ⟨[{ address := 9, rssi := -70, data := [2, 1] }], by decide⟩)] := by
  intro services sent src
  have fits : ∀ s ∈ sent, s.2.Fits := by
    intro s inside
    simp only [sent, List.mem_cons, List.not_mem_nil, or_false] at inside
    rcases inside with rfl | rfl | rfl
    · show (GetServicesResponse.encode _).length ≤ 2048
      decide +kernel
    · exact length_encode_le _ (by simp)
    · exact length_encode_le _ (by simp)
  exact (responses_round_trip.1 sent src [42] ⟨fun _ => 0, 0, 0⟩ fits rfl).1

end NimbleProxy.Api.Messages
