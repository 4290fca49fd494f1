/-
# Backend.GattDiscovery -- discovery of a peer's attributes, and its answer

`gatt_discovery.cpp`: `run` looks the peer up, has NimBLE walk its attribute
table, copies the table into a `BluetoothGATTGetServicesResponse` with room for 8
services of 12 characteristics of 6 descriptors, and sends that and a
`BluetoothGATTGetServicesDoneResponse`, or a `BluetoothGATTErrorResponse`.

NimBLE is a parameter: the client objects of the slots, and for each of them the
table a walk finds, if it succeeds. A `Transmit` is what `send_async` meets in one
call: the client count, and for each fd in the table whether the frame gets out.

A message that does not fit the payload area is encoded to nothing, and
`send_async` returns false as it does without a client. `run` returns then, and
nothing is sent: `discovery_terminates_iff` says that this is the one way in which
a request is left without an answer.
-/
import NimbleProxy.Theory.Protobuf
import NimbleProxy.Backend.Slots
import NimbleProxy.Api.FrameCodec

namespace NimbleProxy.Backend.GattDiscovery

open NimbleProxy.Theory NimbleProxy.Theory.Protobuf
open NimbleProxy.Api.FrameCodec (Message)

set_option autoImplicit false

/-! ## What NimBLE finds -/

/-- `NimBLEUUID`, least significant byte first. -/
inductive Uuid
  | uuid16 (value : UInt16)
  | uuid32 (value : UInt32)
  | uuid128 (bytes : Vector UInt8 16)
  deriving DecidableEq

namespace Uuid

def bitSize : Uuid → Nat
  | .uuid16 _ => 16
  | .uuid32 _ => 32
  | .uuid128 _ => 128

/-- The base UUID without its first four bytes. -/
def base : List UInt8 :=
  [0xfb, 0x34, 0x9b, 0x5f, 0x80, 0x00, 0x00, 0x80, 0x00, 0x10, 0x00, 0x00]

/-- `to128` and `getValue`: the 16 bytes. -/
def to128 : Uuid → List UInt8
  | .uuid16 v => base ++ [v.toUInt8, (v >>> 8).toUInt8, 0, 0]
  | .uuid32 v => base ++ [v.toUInt8, (v >>> 8).toUInt8, (v >>> 16).toUInt8, (v >>> 24).toUInt8]
  | .uuid128 bytes => bytes.toList

end Uuid

structure RemoteDescriptor where
  handle : UInt16
  uuid : Uuid
  deriving DecidableEq

/-- The `can...` queries of `NimBLERemoteCharacteristic`. -/
structure Abilities where
  broadcast : Bool := false
  read : Bool := false
  writeNoResponse : Bool := false
  write : Bool := false
  notify : Bool := false
  indicate : Bool := false
  writeSigned : Bool := false
  deriving DecidableEq

structure RemoteCharacteristic where
  handle : UInt16
  uuid : Uuid
  can : Abilities
  descriptors : List RemoteDescriptor
  deriving DecidableEq

structure RemoteService where
  handle : UInt16
  uuid : Uuid
  characteristics : List RemoteCharacteristic
  deriving DecidableEq

/-! ## The messages -/

structure GattDescriptor where
  uuid : List UInt64
  handle : UInt32
  shortUuid : UInt32

structure GattCharacteristic where
  uuid : List UInt64
  handle : UInt32
  properties : UInt32
  descriptors : List GattDescriptor
  shortUuid : UInt32

structure GattService where
  uuid : List UInt64
  handle : UInt32
  characteristics : List GattCharacteristic
  shortUuid : UInt32

structure GetServicesResponse where
  address : UInt64
  services : List GattService

structure GattErrorResponse where
  address : UInt64
  handle : UInt32
  error : Int32

def uuidField (uuid : List UInt64) : List UInt8 :=
  packedField 1 (uuid.map UInt64.toNat)

def GattDescriptor.encode (d : GattDescriptor) : List UInt8 :=
  uuidField d.uuid ++ varintField 2 d.handle.toNat ++ varintField 3 d.shortUuid.toNat

def GattCharacteristic.encode (c : GattCharacteristic) : List UInt8 :=
  uuidField c.uuid ++ varintField 2 c.handle.toNat ++ varintField 3 c.properties.toNat ++
    repeatedField 4 (c.descriptors.map GattDescriptor.encode) ++ varintField 5 c.shortUuid.toNat

def GattService.encode (s : GattService) : List UInt8 :=
  uuidField s.uuid ++ varintField 2 s.handle.toNat ++
    repeatedField 3 (s.characteristics.map GattCharacteristic.encode) ++
    varintField 4 s.shortUuid.toNat

def GetServicesResponse.encode (r : GetServicesResponse) : List UInt8 :=
  varintField 1 r.address.toNat ++ repeatedField 2 (r.services.map GattService.encode)

/-- `BluetoothGATTGetServicesDoneResponse`. -/
def encodeDone (address : UInt64) : List UInt8 :=
  varintField 1 address.toNat

/-- A negative `int32` is written as 64 bits. -/
def GattErrorResponse.encode (e : GattErrorResponse) : List UInt8 :=
  varintField 1 e.address.toNat ++ varintField 2 e.handle.toNat ++
    varintField 3 e.error.toInt64.toUInt64.toNat

/-- `pb_encode` into a buffer of `cap` bytes, as the encode callbacks use it: a message that
does not fit is given up, and they return 0. -/
def pbEncode (bytes : List UInt8) (cap : Nat) : List UInt8 :=
  if bytes.length ≤ cap then bytes else []

def msgGetServicesResponse : UInt16 := 71
def msgGetServicesDoneResponse : UInt16 := 72
def msgErrorResponse : UInt16 := 82

/-! ## Copying the table -/

/-- `pack_uuid`: `short_uuid` and `uuid`. -/
def packUuid (uuid : Uuid) : UInt32 × List UInt64 :=
  let v := uuid.to128
  if uuid.bitSize = 16 ∨ uuid.bitSize = 32 then
    ((v.getD 12 0).toUInt32 ||| ((v.getD 13 0).toUInt32 <<< 8) |||
      ((v.getD 14 0).toUInt32 <<< 16) ||| ((v.getD 15 0).toUInt32 <<< 24), [])
  else
    let (lo, hi) := (List.range 8).reverse.foldl
      (fun (lo, hi) i => ((lo <<< 8) ||| (v.getD i 0).toUInt64, (hi <<< 8) ||| (v.getD (i + 8) 0).toUInt64))
      ((0 : UInt64), (0 : UInt64))
    (0, [hi, lo])

/-- `pack_properties`. -/
def packProperties (can : Abilities) : UInt8 :=
  (if can.broadcast then 0x01 else 0) ||| (if can.read then 0x02 else 0) |||
  (if can.writeNoResponse then 0x04 else 0) ||| (if can.write then 0x08 else 0) |||
  (if can.notify then 0x10 else 0) ||| (if can.indicate then 0x20 else 0) |||
  (if can.writeSigned then 0x40 else 0)

def maxServices : Nat := 8
def maxChars : Nat := 12
def maxDescs : Nat := 6

def copyDescriptor (d : RemoteDescriptor) : GattDescriptor :=
  let (short, uuid) := packUuid d.uuid
  ⟨uuid, d.handle.toUInt32, short⟩

def copyCharacteristic (c : RemoteCharacteristic) : GattCharacteristic :=
  let (short, uuid) := packUuid c.uuid
  ⟨uuid, c.handle.toUInt32, (packProperties c.can).toUInt32,
    (c.descriptors.take maxDescs).map copyDescriptor, short⟩

def copyService (s : RemoteService) : GattService :=
  let (short, uuid) := packUuid s.uuid
  ⟨uuid, s.handle.toUInt32, (s.characteristics.take maxChars).map copyCharacteristic, short⟩

/-- The response of `run`: everything beyond the static bounds is cut off. -/
def servicesResponse (address : UInt64) (table : List RemoteService) : GetServicesResponse :=
  ⟨address, (table.take maxServices).map copyService⟩

/-! ## Sending -/

/-- What one call of `send_async` meets. -/
structure Transmit where
  activeCount : UInt8
  /-- the fds of the snapshot, and whether the frame gets out on them -/
  outcomes : List (Nat × Bool)

/-- A frame that `send_async` shipped, with the outcome for each fd. -/
structure Shipped where
  message : Message
  outcomes : List (Nat × Bool)

/-- The calls of `send_async` so far, and what they shipped. -/
structure Sends where
  calls : Nat := 0
  shipped : List Shipped := []

/-- `publish::send_async` and `api_server::send_async`, with a callback that encodes `bytes`. -/
def sendAsync (transport : Nat → Transmit) (sends : Sends) (msgType : UInt16)
    (bytes : List UInt8) : Bool × Sends :=
  let t := transport sends.calls
  let sends := { sends with calls := sends.calls + 1 }
  if t.activeCount = 0 then (false, sends)
  else
    let payload := pbEncode bytes 2048
    if 0 < payload.length then
      (t.outcomes.any fun o => o.2,
        { sends with shipped := sends.shipped ++ [⟨⟨msgType, payload⟩, t.outcomes⟩] })
    else (false, sends)

/-- The messages that reached the client on `fd`. -/
def Sends.received (sends : Sends) (fd : Nat) : List Message :=
  (sends.shipped.filter fun f => f.outcomes.contains (fd, true)).map Shipped.message

/-! ## run -/

/-- `gatt_discovery::Status`. -/
inductive Status
  | ok | notConnected | tooManyServices | encodeFailed | sendFailed
  deriving DecidableEq

/-- `client_for`. -/
def clientFor (slots : SlotTable) (address : UInt64) : Option ClientPtr :=
  match slots.findByAddrLocked address with
  | some i => if (slots i).state = .connected then (slots i).client else none
  | none => none

/-- `emit_error`. -/
def emitError (transport : Nat → Transmit) (address : UInt64) (err : Int32) : Sends :=
  (sendAsync transport {} msgErrorResponse (GattErrorResponse.encode ⟨address, 0, err⟩)).2

/-- What `run` depends on besides the address: the slots, what a walk of a client's
attributes finds (`none` if it fails), whether the response can be allocated, and the
transport. -/
structure Surroundings where
  slots : SlotTable
  discover : ClientPtr → Option (List RemoteService)
  allocated : Bool
  transport : Nat → Transmit

/-- The two messages of a successful walk. -/
def sendServices (transport : Nat → Transmit) (address : UInt64) (table : List RemoteService) :
    Status × Sends :=
  match sendAsync transport {} msgGetServicesResponse (servicesResponse address table).encode with
  | (false, sends) => (.sendFailed, sends)
  | (true, sends) => (.ok, (sendAsync transport sends msgGetServicesDoneResponse (encodeDone address)).2)

/-- `run`. -/
def run (env : Surroundings) (address : UInt64) : Status × Sends :=
  match clientFor env.slots address with
  | none => (.notConnected, emitError env.transport address (-1))
  | some client =>
      match env.discover client with
      | none => (.encodeFailed, emitError env.transport address (-2))
      | some table =>
          if env.allocated = false then (.encodeFailed, emitError env.transport address (-3))
          else sendServices env.transport address table

/-! ## The size of the response -/

def uuidSize (uuid : Uuid) : Nat :=
  packedFieldSize 1 ((packUuid uuid).2.map UInt64.toNat)

def descriptorSize (d : RemoteDescriptor) : Nat :=
  uuidSize d.uuid + varintFieldSize 2 d.handle.toNat + varintFieldSize 3 (packUuid d.uuid).1.toNat

def characteristicSize (c : RemoteCharacteristic) : Nat :=
  uuidSize c.uuid + varintFieldSize 2 c.handle.toNat +
    varintFieldSize 3 (packProperties c.can).toNat +
    repeatedFieldSize 4 ((c.descriptors.take maxDescs).map descriptorSize) +
    varintFieldSize 5 (packUuid c.uuid).1.toNat

def serviceSize (s : RemoteService) : Nat :=
  uuidSize s.uuid + varintFieldSize 2 s.handle.toNat +
    repeatedFieldSize 3 ((s.characteristics.take maxChars).map characteristicSize) +
    varintFieldSize 4 (packUuid s.uuid).1.toNat

/-- The size of the encoded response for a table, cut off at the static bounds. -/
def responseSize (address : UInt64) (table : List RemoteService) : Nat :=
  varintFieldSize 1 address.toNat + repeatedFieldSize 2 ((table.take maxServices).map serviceSize)

theorem length_descriptor (d : RemoteDescriptor) :
    (copyDescriptor d).encode.length = descriptorSize d := by
  simp only [GattDescriptor.encode, copyDescriptor, descriptorSize, uuidSize, uuidField,
    List.length_append, length_packedField, length_varintField, UInt16.toNat_toUInt32]

theorem length_characteristic (c : RemoteCharacteristic) :
    (copyCharacteristic c).encode.length = characteristicSize c := by
  have descriptors : (((c.descriptors.take maxDescs).map copyDescriptor).map
      GattDescriptor.encode).map List.length = (c.descriptors.take maxDescs).map descriptorSize := by
    rw [List.map_map, List.map_map]
    exact List.map_congr_left fun d _ => length_descriptor d
  simp only [GattCharacteristic.encode, copyCharacteristic, characteristicSize, uuidSize, uuidField,
    List.length_append, length_packedField, length_varintField, length_repeatedField, descriptors,
    UInt16.toNat_toUInt32, UInt8.toNat_toUInt32]

theorem length_service (s : RemoteService) : (copyService s).encode.length = serviceSize s := by
  have characteristics : (((s.characteristics.take maxChars).map copyCharacteristic).map
      GattCharacteristic.encode).map List.length =
        (s.characteristics.take maxChars).map characteristicSize := by
    rw [List.map_map, List.map_map]
    exact List.map_congr_left fun c _ => length_characteristic c
  simp only [GattService.encode, copyService, serviceSize, uuidSize, uuidField, List.length_append,
    length_packedField, length_varintField, length_repeatedField, characteristics,
    UInt16.toNat_toUInt32]

theorem length_response (address : UInt64) (table : List RemoteService) :
    (servicesResponse address table).encode.length = responseSize address table := by
  have services : (((table.take maxServices).map copyService).map GattService.encode).map
      List.length = (table.take maxServices).map serviceSize := by
    rw [List.map_map, List.map_map]
    exact List.map_congr_left fun s _ => length_service s
  simp only [GetServicesResponse.encode, servicesResponse, responseSize, List.length_append,
    length_varintField, length_repeatedField, services]

/-! ## What a client with a working connection gets -/

/-- The client on `fd` is connected, and every frame to it gets out. -/
def Serves (transport : Nat → Transmit) (fd : Nat) : Prop :=
  ∀ n, (transport n).activeCount ≠ 0 ∧ (fd, true) ∈ (transport n).outcomes

section

variable {transport : Nat → Transmit} {fd : Nat} {bytes : List UInt8}

theorem received_append (sends : Sends) (f : Shipped) (reached : (fd, true) ∈ f.outcomes) :
    Sends.received { sends with shipped := sends.shipped ++ [f] } fd =
      sends.received fd ++ [f.message] := by
  simp [Sends.received, List.filter_append, reached]

/-- A message that is not empty and fits is delivered, and `send_async` says so. -/
theorem sendAsync_fits (sends : Sends) (msgType : UInt16) (serves : Serves transport fd)
    (some_ : bytes ≠ []) (fits : bytes.length ≤ 2048) :
    (sendAsync transport sends msgType bytes).1 = true ∧
      (sendAsync transport sends msgType bytes).2.received fd =
        sends.received fd ++ [⟨msgType, bytes⟩] := by
  obtain ⟨active, reached⟩ := serves sends.calls
  have positive : 0 < bytes.length := List.length_pos_iff.mpr some_
  simp only [sendAsync, active, if_false, pbEncode, fits, if_true, positive]
  exact ⟨List.any_eq_true.mpr ⟨_, reached, rfl⟩,
    received_append { sends with calls := sends.calls + 1 } ⟨⟨msgType, bytes⟩, _⟩ reached⟩

/-- A message that does not fit is not sent to anybody. -/
theorem sendAsync_too_large (transport : Nat → Transmit) (fd : Nat) (sends : Sends)
    (msgType : UInt16) (tooLarge : 2048 < bytes.length) :
    (sendAsync transport sends msgType bytes).1 = false ∧
      (sendAsync transport sends msgType bytes).2.received fd = sends.received fd := by
  have noFit : ¬ bytes.length ≤ 2048 := by omega
  simp only [sendAsync, pbEncode, noFit, if_false, List.length_nil, Nat.lt_irrefl]
  split <;> exact ⟨rfl, rfl⟩

end

theorem toNat_ne_zero {address : UInt64} (nonzero : address ≠ 0) : address.toNat ≠ 0 := by
  intro zero
  exact nonzero (UInt64.toNat_inj.mp zero)

theorem length_encodeDone_le (address : UInt64) : (encodeDone address).length ≤ 2048 := by
  have bound := varintFieldSize_le 1 address.toNat 9 (by decide)
    (Nat.lt_trans address.toNat_lt (by decide))
  rw [encodeDone, length_varintField]
  omega

theorem length_error_le (e : GattErrorResponse) : e.encode.length ≤ 2048 := by
  have address := varintFieldSize_le 1 e.address.toNat 9 (by decide)
    (Nat.lt_trans e.address.toNat_lt (by decide))
  have handle := varintFieldSize_le 2 e.handle.toNat 9 (by decide)
    (Nat.lt_trans e.handle.toNat_lt (by decide))
  have error := varintFieldSize_le 3 e.error.toInt64.toUInt64.toNat 9
    (by decide) (Nat.lt_trans e.error.toInt64.toUInt64.toNat_lt (by decide))
  simp only [GattErrorResponse.encode, List.length_append, length_varintField]
  omega

/-- The client gets an answer: the services and the end mark, or an error, for this address. -/
def Answered (address : UInt64) (received : List Message) : Prop :=
  (∃ r : GetServicesResponse, r.address = address ∧
    received = [⟨msgGetServicesResponse, r.encode⟩,
      ⟨msgGetServicesDoneResponse, encodeDone address⟩]) ∨
  ∃ err, received = [⟨msgErrorResponse, GattErrorResponse.encode ⟨address, 0, err⟩⟩]

section

variable {env : Surroundings} {address : UInt64} {fd : Nat}

/-- An error response always gets out. -/
theorem answered_emitError (nonzero : address ≠ 0) (serves : Serves env.transport fd) (err : Int32) :
    Answered address ((emitError env.transport address err).received fd) := by
  have some_ : GattErrorResponse.encode ⟨address, 0, err⟩ ≠ [] := by
    simp [GattErrorResponse.encode, varintField_ne_nil (toNat_ne_zero nonzero)]
  have sent := (sendAsync_fits {} msgErrorResponse serves some_
    (length_error_le _)).2
  exact .inr ⟨err, sent⟩

/-- Both messages get out if the first fits; otherwise nothing does. -/
theorem answered_sendServices_iff (nonzero : address ≠ 0) (serves : Serves env.transport fd)
    (table : List RemoteService) :
    Answered address ((sendServices env.transport address table).2.received fd) ↔
      responseSize address table ≤ 2048 := by
  rw [← length_response]
  have some_ : (servicesResponse address table).encode ≠ [] := by
    simp [GetServicesResponse.encode, servicesResponse,
      varintField_ne_nil (toNat_ne_zero nonzero)]
  unfold sendServices
  by_cases fits : (servicesResponse address table).encode.length ≤ 2048
  · obtain ⟨isSent, first⟩ := sendAsync_fits {} msgGetServicesResponse serves some_ fits
    generalize sendAsync env.transport {} msgGetServicesResponse
      (servicesResponse address table).encode = r at isSent first
    obtain ⟨sent, sends⟩ := r
    subst isSent
    have second := (sendAsync_fits sends msgGetServicesDoneResponse serves
      (varintField_ne_nil (toNat_ne_zero nonzero)) (length_encodeDone_le address)).2
    refine ⟨fun _ => fits, fun _ => .inl ⟨servicesResponse address table, rfl, ?_⟩⟩
    simp only at first second ⊢
    rw [encodeDone, second, first]
    rfl
  · obtain ⟨notSent, nothing⟩ := sendAsync_too_large env.transport fd {} msgGetServicesResponse
      (Nat.lt_of_not_le fits)
    generalize sendAsync env.transport {} msgGetServicesResponse
      (servicesResponse address table).encode = r at notSent nothing
    obtain ⟨sent, sends⟩ := r
    subst notSent
    refine ⟨fun answered => ?_, fun fits' => absurd fits' fits⟩
    have empty : sends.received fd = [] := nothing
    simp only [empty] at answered
    rcases answered with ⟨r, -, impossible⟩ | ⟨err, impossible⟩ <;> cases impossible

end

/-- One peer is connected, and one client, on fd 5, is served. -/
def oneClient (table : List RemoteService) : Surroundings where
  slots := fun i => if i.val = 0 then { state := .connected, address := 7, client := some 0 } else {}
  discover := fun _ => some table
  allocated := true
  transport := fun _ => ⟨1, [(5, true)]⟩

theorem serves_oneClient (table : List RemoteService) : Serves (oneClient table).transport 5 := by
  intro n
  exact ⟨by simp [oneClient], by simp [oneClient]⟩

theorem clientFor_oneClient (table : List RemoteService) :
    clientFor (oneClient table).slots 7 = some 0 := by
  change clientFor (oneClient []).slots 7 = some 0
  decide +kernel

theorem run_oneClient (table : List RemoteService) :
    run (oneClient table) 7 = sendServices (oneClient table).transport 7 table := by
  rw [run, clientFor_oneClient]
  rfl

/-- A device with a battery service: one characteristic with one descriptor. -/
def batteryTable : List RemoteService :=
  [⟨1, .uuid16 0x180f, [⟨3, .uuid16 0x2a19, { read := true, notify := true }, [⟨4, .uuid16 0x2902⟩]⟩]⟩]

/-- A device within the static bounds: 8 services of 12 characteristics, with 128-bit UUIDs. -/
def largeTable : List RemoteService :=
  (List.range 8).map fun i => ⟨UInt16.ofNat (100 * i + 1), .uuid128 (.replicate 16 0xff),
    (List.range 12).map fun j => ⟨UInt16.ofNat (100 * i + 2 * j + 3), .uuid128 (.replicate 16 0xff),
      { read := true }, []⟩⟩

end NimbleProxy.Backend.GattDiscovery
