/-
# Backend.GattPacking -- the copy of the attribute table in its nanopb struct

`run` in `gatt_discovery.cpp` fills a preallocated message: 8 services of 12
characteristics of 6 descriptors, each array with a count. Three nested loops break where
their array is full. What nanopb encodes of the result is the list model of
`Backend.GattDiscovery` (`message_packServices`), and it is the front of the table, entry
by entry (`packing_faithful`).

A UUID is carried by `short_uuid` or by the pair `uuid`. NimBLE keeps the least
significant byte first, the pair has the most significant word first. A 16-bit UUID is
read back as the 32-bit UUID of the same 128 bits, which is equal to it for NimBLE.
-/
import NimbleProxy.Theory.FixedArray
import NimbleProxy.Theory.LittleEndian
import NimbleProxy.Backend.GattDiscovery

namespace NimbleProxy.Backend.GattPacking

open NimbleProxy.Theory
open GattDiscovery (Uuid RemoteDescriptor RemoteCharacteristic RemoteService Abilities
  GattDescriptor GattCharacteristic GattService GetServicesResponse packProperties maxServices
  maxChars maxDescs servicesResponse)

set_option autoImplicit false

/-! ## The message -/

/-- `proxyapi_BluetoothGATTDescriptor`. -/
structure Descriptor where
  uuid : FixedArray UInt64 2 := .cleared 0 2
  handle : UInt32 := 0
  shortUuid : UInt32 := 0

structure Characteristic where
  uuid : FixedArray UInt64 2 := .cleared 0 2
  handle : UInt32 := 0
  properties : UInt32 := 0
  descriptors : FixedArray Descriptor maxDescs := .cleared {} maxDescs
  shortUuid : UInt32 := 0

structure Service where
  uuid : FixedArray UInt64 2 := .cleared 0 2
  handle : UInt32 := 0
  characteristics : FixedArray Characteristic maxChars := .cleared {} maxChars
  shortUuid : UInt32 := 0

structure Response where
  address : UInt64
  services : FixedArray Service maxServices := .cleared {} maxServices

/-! ## Filling it -/

/-- `pack_uuid`: `short_out`, and `uuid_arr` with `uuid_count`. -/
def packUuid (uuid : Uuid) : UInt32 × FixedArray UInt64 2 :=
  let bits := uuid.bitSize
  let v := uuid.to128
  if bits = 16 ∨ bits = 32 then
    let s := (v.getD 12 0).toUInt32 ||| ((v.getD 13 0).toUInt32 <<< 8) |||
      ((v.getD 14 0).toUInt32 <<< 16) ||| ((v.getD 15 0).toUInt32 <<< 24)
    (s, ⟨#v[0, 0], 0, by decide⟩)
  else
    let (lo, hi) := [7, 6, 5, 4, 3, 2, 1, 0].foldl
      (fun (lo, hi) i =>
        ((lo <<< 8) ||| (v.getD i 0).toUInt64, (hi <<< 8) ||| (v.getD (i + 8) 0).toUInt64))
      ((0 : UInt64), (0 : UInt64))
    (0, ⟨#v[hi, lo], 2, by decide⟩)

def packDescriptor (dsc : RemoteDescriptor) : Descriptor :=
  let (short, uuid) := packUuid dsc.uuid
  { handle := dsc.handle.toUInt32, shortUuid := short, uuid }

def packCharacteristic (chr : RemoteCharacteristic) : Characteristic :=
  let (short, uuid) := packUuid chr.uuid
  { handle := chr.handle.toUInt32
    properties := (packProperties chr.can).toUInt32
    shortUuid := short
    uuid
    descriptors := FixedArray.copy packDescriptor chr.descriptors (.cleared {} maxDescs) }

def packService (svc : RemoteService) : Service :=
  let (short, uuid) := packUuid svc.uuid
  { handle := svc.handle.toUInt32
    shortUuid := short
    uuid
    characteristics := FixedArray.copy packCharacteristic svc.characteristics (.cleared {} maxChars) }

/-- The three loops of `run`. -/
def packServices (address : UInt64) (services : List RemoteService) : Response where
  address := address
  services := FixedArray.copy packService services (.cleared {} maxServices)

/-! ## What is encoded of it -/

def Descriptor.message (d : Descriptor) : GattDescriptor :=
  ⟨d.uuid.list, d.handle, d.shortUuid⟩

def Characteristic.message (c : Characteristic) : GattCharacteristic :=
  ⟨c.uuid.list, c.handle, c.properties, c.descriptors.list.map Descriptor.message, c.shortUuid⟩

def Service.message (s : Service) : GattService :=
  ⟨s.uuid.list, s.handle, s.characteristics.list.map Characteristic.message, s.shortUuid⟩

def Response.message (r : Response) : GetServicesResponse :=
  ⟨r.address, r.services.list.map Service.message⟩

theorem packUuid_eq (uuid : Uuid) :
    GattDiscovery.packUuid uuid = ((packUuid uuid).1, (packUuid uuid).2.list) := by
  cases uuid <;> rfl

theorem message_packDescriptor (dsc : RemoteDescriptor) :
    (packDescriptor dsc).message = GattDiscovery.copyDescriptor dsc := by
  rw [GattDiscovery.copyDescriptor, packUuid_eq]
  rfl

theorem message_packCharacteristic (chr : RemoteCharacteristic) :
    (packCharacteristic chr).message = GattDiscovery.copyCharacteristic chr := by
  have descriptors : (packCharacteristic chr).descriptors.list.map Descriptor.message =
      (chr.descriptors.take maxDescs).map GattDiscovery.copyDescriptor := by
    rw [packCharacteristic, FixedArray.list_copy_cleared, List.map_map]
    exact List.map_congr_left fun dsc _ => message_packDescriptor dsc
  rw [GattDiscovery.copyCharacteristic, packUuid_eq, Characteristic.message, descriptors]
  rfl

theorem message_packService (svc : RemoteService) :
    (packService svc).message = GattDiscovery.copyService svc := by
  have characteristics : (packService svc).characteristics.list.map Characteristic.message =
      (svc.characteristics.take maxChars).map GattDiscovery.copyCharacteristic := by
    rw [packService, FixedArray.list_copy_cleared, List.map_map]
    exact List.map_congr_left fun chr _ => message_packCharacteristic chr
  rw [GattDiscovery.copyService, packUuid_eq, Service.message, characteristics]
  rfl

/-- **The struct is the list model**: what `run` sends is its encoding. -/
theorem message_packServices (address : UInt64) (services : List RemoteService) :
    (packServices address services).message = servicesResponse address services := by
  have same : (packServices address services).services.list.map Service.message =
      (services.take maxServices).map GattDiscovery.copyService := by
    rw [packServices, FixedArray.list_copy_cleared, List.map_map]
    exact List.map_congr_left fun svc _ => message_packService svc
  rw [servicesResponse, Response.message, same]
  rfl

/-! ## UUIDs -/

/-- `uuid_from_pair`, and its counterpart for a short UUID. -/
def unpackUuid (short : UInt32) : List UInt64 → Option Uuid
  | [] => some (.uuid32 short)
  | [hi, lo] => some (.uuid128 ⟨(LittleEndian.bytes 8 lo.toNat ++ LittleEndian.bytes 8 hi.toNat).toArray,
      by simp⟩)
  | _ => none

/-- The UUID is where the API puts it, and is read back. -/
structure CarriesUuid (uuid : Uuid) (short : UInt32) (pair : List UInt64) : Prop where
  readBack : ∃ uuid' ∈ unpackUuid short pair, uuid'.to128 = uuid.to128
  uuid16 : ∀ v, uuid = .uuid16 v → pair = [] ∧ short.toNat = v.toNat
  uuid32 : ∀ v, uuid = .uuid32 v → pair = [] ∧ short = v
  uuid128 : ∀ bytes, uuid = .uuid128 bytes → ∃ hi lo, pair = [hi, lo] ∧ short = 0 ∧
    hi.toNat * 2 ^ 64 + lo.toNat = LittleEndian.value bytes.toList

theorem value_uuid16 (v : UInt16) :
    LittleEndian.value [v.toUInt8, (v >>> 8).toUInt8, 0, 0] = v.toNat := by
  have := v.toNat_lt
  simp [Nat.shiftRight_eq_div_pow]
  omega

theorem value_uuid32 (v : UInt32) :
    LittleEndian.value [v.toUInt8, (v >>> 8).toUInt8, (v >>> 16).toUInt8, (v >>> 24).toUInt8] =
      v.toNat := by
  have := v.toNat_lt
  simp [Nat.shiftRight_eq_div_pow]
  omega

theorem packUuid_uuid16 (v : UInt16) :
    (packUuid (.uuid16 v)).1.toNat = v.toNat ∧ (packUuid (.uuid16 v)).2.list = [] := by
  refine ⟨?_, rfl⟩
  rw [← value_uuid16]
  exact LittleEndian.four _ _ _ _

theorem packUuid_uuid32 (v : UInt32) :
    (packUuid (.uuid32 v)).1 = v ∧ (packUuid (.uuid32 v)).2.list = [] := by
  refine ⟨UInt32.toNat_inj.mp ?_, rfl⟩
  exact (LittleEndian.four _ _ _ _).trans (value_uuid32 v)

/-- The loop over eight bytes, the last one first. -/
theorem toNat_word (v : List UInt8) (k : Nat) (enough : k + 8 ≤ v.length) :
    ([7, 6, 5, 4, 3, 2, 1, 0].foldl
      (fun (word : UInt64) i => (word <<< 8) ||| (v.getD (i + k) 0).toUInt64) 0).toNat =
        LittleEndian.value ((v.drop k).take 8) := by
  have eight : ((v.drop k).take 8).length = 8 := by simp; omega
  have bytes : ((v.drop k).take 8).reverse =
      [7, 6, 5, 4, 3, 2, 1, 0].map fun i => v.getD (i + k) 0 := by
    rw [show [7, 6, 5, 4, 3, 2, 1, 0] = (List.range 8).reverse from rfl, List.map_reverse]
    congr 1
    refine List.ext_getElem (by simp; omega) fun i _ inside => ?_
    have below : k + i < v.length := by simp at inside; omega
    simp [Nat.add_comm i k, below]
  rw [← LittleEndian.foldl_eight _ eight.le, bytes, List.foldl_map]

/-- Bytes 8 to 15 are the high word and bytes 0 to 7 the low one. -/
theorem packUuid_uuid128 (bytes : Vector UInt8 16) :
    ∃ hi lo, packUuid (.uuid128 bytes) = (0, ⟨#v[hi, lo], 2, by decide⟩) ∧
      lo.toNat = LittleEndian.value (bytes.toList.take 8) ∧
      hi.toNat = LittleEndian.value (bytes.toList.drop 8) := by
  have length : bytes.toList.length = 16 := Vector.length_toList
  have low := toNat_word bytes.toList 0 (by omega)
  have high := toNat_word bytes.toList 8 (by omega)
  rw [List.take_of_length_le (by simp)] at high
  exact ⟨_, _, rfl, low, high⟩

theorem carriesUuid (uuid : Uuid) : CarriesUuid uuid (packUuid uuid).1 (packUuid uuid).2.list := by
  cases uuid with
  | uuid16 v =>
      obtain ⟨short, pair⟩ := packUuid_uuid16 v
      refine ⟨⟨.uuid32 (packUuid (.uuid16 v)).1, pair ▸ rfl, ?_⟩, ?_, nofun, nofun⟩
      · have same := (value_uuid32 _).trans (short.trans (value_uuid16 v).symm)
        exact congrArg (Uuid.base ++ ·) (LittleEndian.value_inj rfl same)
      · rintro _ ⟨⟩
        exact ⟨pair, short⟩
  | uuid32 v =>
      obtain ⟨short, pair⟩ := packUuid_uuid32 v
      rw [short, pair]
      refine ⟨⟨_, rfl, rfl⟩, nofun, ?_, nofun⟩
      rintro _ ⟨⟩
      exact ⟨rfl, rfl⟩
  | uuid128 bytes =>
      obtain ⟨hi, lo, packed, low, high⟩ := packUuid_uuid128 bytes
      have pair : (packUuid (.uuid128 bytes)).2.list = [hi, lo] := by rw [packed]; rfl
      have short : (packUuid (.uuid128 bytes)).1 = 0 := by rw [packed]
      have split := List.take_append_drop 8 bytes.toList
      rw [short, pair]
      refine ⟨⟨_, rfl, ?_⟩, nofun, nofun, ?_⟩
      · have lowBytes := LittleEndian.bytes_value (bytes.toList.take 8)
        have highBytes := LittleEndian.bytes_value (bytes.toList.drop 8)
        rw [List.length_take, Vector.length_toList, ← low] at lowBytes
        rw [List.length_drop, Vector.length_toList, ← high] at highBytes
        exact (congrArg₂ (· ++ ·) lowBytes highBytes).trans split
      · rintro _ ⟨⟩
        refine ⟨hi, lo, rfl, rfl, ?_⟩
        conv_rhs => rw [← split]
        rw [LittleEndian.value_append, ← low, ← high]
        simp
        omega

/-! ## The table -/

/-- The characteristic properties in the order of their bits. -/
def bits (can : Abilities) : List Bool :=
  [can.broadcast, can.read, can.writeNoResponse, can.write, can.notify, can.indicate,
    can.writeSigned]

theorem testBit_packProperties (can : Abilities) (i : Nat) :
    (packProperties can).toUInt32.toNat.testBit i = (bits can).getD i false := by
  have all : ∀ a b c d e f g, ∀ i : Fin 8,
      (packProperties ⟨a, b, c, d, e, f, g⟩).toNat.testBit i =
        [a, b, c, d, e, f, g].getD i false := by decide +kernel
  rw [UInt8.toNat_toUInt32]
  by_cases low : i < 8
  · exact all _ _ _ _ _ _ _ ⟨i, low⟩
  · have high := Nat.le_of_not_lt low
    have big : (packProperties can).toNat < 2 ^ i :=
      (packProperties can).toNat_lt.trans_le (Nat.pow_le_pow_right (by decide) high)
    have none : (bits can).length ≤ i := Nat.le_of_succ_le high
    rw [Nat.testBit_lt_two_pow big, List.getD_eq_getElem?_getD, List.getElem?_eq_none none]
    rfl

structure DescriptorOf (dsc : RemoteDescriptor) (out : Descriptor) : Prop where
  handle : out.handle.toNat = dsc.handle.toNat
  uuid : CarriesUuid dsc.uuid out.shortUuid out.uuid.list

structure CharacteristicOf (chr : RemoteCharacteristic) (out : Characteristic) : Prop where
  handle : out.handle.toNat = chr.handle.toNat
  uuid : CarriesUuid chr.uuid out.shortUuid out.uuid.list
  properties : ∀ i, out.properties.toNat.testBit i = (bits chr.can).getD i false
  descriptors : List.Forall₂ DescriptorOf (chr.descriptors.take 6) out.descriptors.list

structure ServiceOf (svc : RemoteService) (out : Service) : Prop where
  handle : out.handle.toNat = svc.handle.toNat
  uuid : CarriesUuid svc.uuid out.shortUuid out.uuid.list
  characteristics :
    List.Forall₂ CharacteristicOf (svc.characteristics.take 12) out.characteristics.list

theorem descriptorOf (dsc : RemoteDescriptor) : DescriptorOf dsc (packDescriptor dsc) where
  handle := UInt16.toNat_toUInt32 _
  uuid := carriesUuid dsc.uuid

theorem characteristicOf (chr : RemoteCharacteristic) :
    CharacteristicOf chr (packCharacteristic chr) where
  handle := UInt16.toNat_toUInt32 _
  uuid := carriesUuid chr.uuid
  properties := testBit_packProperties chr.can
  descriptors := FixedArray.forall₂_copy descriptorOf _ _

theorem serviceOf (svc : RemoteService) : ServiceOf svc (packService svc) where
  handle := UInt16.toNat_toUInt32 _
  uuid := carriesUuid svc.uuid
  characteristics := FixedArray.forall₂_copy characteristicOf _ _

/-- **Packing.** The response has the first 8 services, of each the first 12 characteristics, and
of each the first 6 descriptors, in the order and with the handles, properties and UUIDs of the
table, and that is the message that `run` encodes. -/
theorem packing_faithful (address : UInt64) (services : List RemoteService) :
    (packServices address services).address = address ∧
      List.Forall₂ ServiceOf (services.take 8) (packServices address services).services.list ∧
      (packServices address services).message = servicesResponse address services :=
  ⟨rfl, FixedArray.forall₂_copy serviceOf services {}, message_packServices address services⟩

end NimbleProxy.Backend.GattPacking
