/-
# Api.DiscoveredTable -- the attribute table at both ends of the API

What a client that asked for the services of a device holds when the answer is complete.
It reads the messages of its stream (`Api.Messages`), leaves those aside that are not about
this request, collects the services until the end mark and takes an error for the end
(`collect`). From a service on the wire it rebuilds the entry of the table: handles, the
128 bits of the UUIDs, the properties bit by bit (`rebuildService`).

`discovery_end_to_end`: it ends with the table of the peer, cut at the bounds of the
message, or with the error of the stage of `gatt_discovery::run` that failed; and it is left
waiting exactly if the table is too large for the payload area.
-/
import NimbleProxy.Api.Messages
import NimbleProxy.Backend.GattPacking

namespace NimbleProxy.Api.DiscoveredTable

open NimbleProxy.Api.FrameCodec (Message)
open NimbleProxy.Api.Messages
open NimbleProxy.Backend NimbleProxy.Backend.GattDiscovery

set_option autoImplicit false

/-! ## What there is to see of a table -/

structure SeenDescriptor where
  handle : Nat
  uuid : List UInt8
  deriving DecidableEq

structure SeenCharacteristic where
  handle : Nat
  uuid : List UInt8
  can : Abilities
  descriptors : List SeenDescriptor
  deriving DecidableEq

structure SeenService where
  handle : Nat
  uuid : List UInt8
  characteristics : List SeenCharacteristic
  deriving DecidableEq

def seenDescriptor (d : RemoteDescriptor) : SeenDescriptor :=
  ⟨d.handle.toNat, d.uuid.to128⟩

def seenCharacteristic (c : RemoteCharacteristic) : SeenCharacteristic :=
  ⟨c.handle.toNat, c.uuid.to128, c.can, (c.descriptors.take 6).map seenDescriptor⟩

def seenService (s : RemoteService) : SeenService :=
  ⟨s.handle.toNat, s.uuid.to128, (s.characteristics.take 12).map seenCharacteristic⟩

/-- A table as far as the message goes. -/
def seenTable (table : List RemoteService) : List SeenService := (table.take 8).map seenService

/-! ## Rebuilding it -/

/-- The 128 bits of a UUID on the wire. -/
def rebuildUuid (short : UInt32) (pair : List UInt64) : Option (List UInt8) :=
  (GattPacking.unpackUuid short pair).map Uuid.to128

/-- The characteristic properties of the Bluetooth specification, bit by bit. -/
def rebuildAbilities (properties : Nat) : Abilities where
  broadcast := properties.testBit 0
  read := properties.testBit 1
  writeNoResponse := properties.testBit 2
  write := properties.testBit 3
  notify := properties.testBit 4
  indicate := properties.testBit 5
  writeSigned := properties.testBit 6

def rebuildDescriptor (d : GattDescriptor) : Option SeenDescriptor :=
  (rebuildUuid d.shortUuid d.uuid).map fun uuid => ⟨d.handle.toNat, uuid⟩

def rebuildCharacteristic (c : GattCharacteristic) : Option SeenCharacteristic := do
  let uuid ← rebuildUuid c.shortUuid c.uuid
  let descriptors ← c.descriptors.mapM rebuildDescriptor
  return ⟨c.handle.toNat, uuid, rebuildAbilities c.properties.toNat, descriptors⟩

def rebuildService (s : GattService) : Option SeenService := do
  let uuid ← rebuildUuid s.shortUuid s.uuid
  let characteristics ← s.characteristics.mapM rebuildCharacteristic
  return ⟨s.handle.toNat, uuid, characteristics⟩

/-! ## The client -/

/-- A message that belongs to a request for the services of this device. -/
def isAbout (address : UInt64) : Response → Bool
  | .services r => r.address = address
  | .servicesDone a => a = address
  | .gattError e => e.address = address && e.handle = 0
  | _ => false

/-- How a request ends. -/
inductive Outcome
  | table (services : List SeenService)
  | error (code : Int32)
  /-- what was received cannot be read -/
  | unreadable
  deriving DecidableEq

/-- The client, with what it has collected; `none` while it waits. -/
def collect (address : UInt64) : List SeenService → List Response → Option Outcome
  | _, [] => none
  | held, .services r :: rest =>
      if r.address = address then
        match r.services.mapM rebuildService with
        | some services => collect address (held ++ services) rest
        | none => some .unreadable
      else collect address held rest
  | held, .servicesDone a :: rest =>
      if a = address then some (.table held) else collect address held rest
  | held, .gattError e :: rest =>
      if e.address = address ∧ e.handle = 0 then some (.error e.error)
      else collect address held rest
  | held, _ :: rest => collect address held rest

theorem collect_other {address : UInt64} {r : Response} (other : isAbout address r = false)
    (held : List SeenService) (rest : List Response) :
    collect address held (r :: rest) = collect address held rest := by
  cases r with
  | services r =>
      have notMine : ¬ r.address = address := of_decide_eq_false other
      rw [collect, if_neg notMine]
  | servicesDone a =>
      have notMine : ¬ a = address := of_decide_eq_false other
      rw [collect, if_neg notMine]
  | gattError e =>
      have notMine : ¬ (e.address = address ∧ e.handle = 0) := by simpa [isAbout] using other
      rw [collect, if_neg notMine]
  | hello | connect | disconnect | ping | deviceInfo | listEntitiesDone | deviceConnection
  | read | notifyData | connectionsFree | write | notify | rawAdvertisements => rfl

/-- What is about other requests makes no difference. -/
theorem collect_filter (address : UInt64) (heard : List Response) (held : List SeenService) :
    collect address held heard = collect address held (heard.filter (isAbout address)) := by
  induction heard generalizing held with
  | nil => rfl
  | cons r rest ih =>
      cases mine : isAbout address r with
      | false =>
          rw [collect_other mine, List.filter_cons_of_neg (by simp [mine])]
          exact ih held
      | true =>
          rw [List.filter_cons_of_pos mine]
          cases r with
          | services r | servicesDone a | gattError e => simp only [collect, ih]
          | hello | connect | disconnect | ping | deviceInfo | listEntitiesDone | deviceConnection
          | read | notifyData | connectionsFree | write | notify | rawAdvertisements => cases mine

/-! ## What was copied is rebuilt -/

theorem rebuildUuid_packUuid (uuid : Uuid) :
    rebuildUuid (packUuid uuid).1 (packUuid uuid).2 = some uuid.to128 := by
  obtain ⟨uuid', found, same⟩ := (GattPacking.carriesUuid uuid).readBack
  rw [GattPacking.packUuid_eq, rebuildUuid, found, Option.map_some, same]

theorem rebuildAbilities_packProperties (can : Abilities) :
    rebuildAbilities (packProperties can).toUInt32.toNat = can := by
  simp only [rebuildAbilities, GattPacking.testBit_packProperties]
  rfl

theorem rebuildDescriptor_copy (d : RemoteDescriptor) :
    rebuildDescriptor (copyDescriptor d) = some (seenDescriptor d) := by
  simp only [rebuildDescriptor, copyDescriptor, rebuildUuid_packUuid, Option.map_some,
    UInt16.toNat_toUInt32]
  rfl

/-- Entries that are rebuilt one by one are rebuilt together. -/
theorem mapM_copy {α β γ : Type} {copy : α → β} {rebuild : β → Option γ} {seen : α → γ}
    (each : ∀ a, rebuild (copy a) = some (seen a)) (entries : List α) :
    (entries.map copy).mapM rebuild = some (entries.map seen) := by
  induction entries with
  | nil => rfl
  | cons a rest ih =>
      rw [List.map_cons, List.mapM_cons, each, ih]
      rfl

theorem rebuildCharacteristic_copy (c : RemoteCharacteristic) :
    rebuildCharacteristic (copyCharacteristic c) = some (seenCharacteristic c) := by
  simp only [rebuildCharacteristic, copyCharacteristic, rebuildUuid_packUuid,
    mapM_copy rebuildDescriptor_copy, rebuildAbilities_packProperties, Option.bind_eq_bind,
    Option.bind_some, UInt16.toNat_toUInt32]
  rfl

theorem rebuildService_copy (s : RemoteService) :
    rebuildService (copyService s) = some (seenService s) := by
  simp only [rebuildService, copyService, rebuildUuid_packUuid,
    mapM_copy rebuildCharacteristic_copy, Option.bind_eq_bind, Option.bind_some,
    UInt16.toNat_toUInt32]
  rfl

theorem rebuild_servicesResponse (address : UInt64) (table : List RemoteService) :
    (servicesResponse address table).services.mapM rebuildService = some (seenTable table) :=
  mapM_copy rebuildService_copy _

/-! ## End to end -/

/-- What a request comes to: how `run` ends for the table it finds. -/
def expected (env : Surroundings) (address : UInt64) : Option Outcome :=
  match clientFor env.slots address with
  | none => some (.error (-1))
  | some client =>
      match env.discover client with
      | none => some (.error (-2))
      | some table =>
          if env.allocated = false then some (.error (-3))
          -- a response that does not fit is never sent, and nothing is sent in its place
          else if responseSize address table ≤ 2048 then some (.table (seenTable table))
          else none

/-- The records a client on `fd` reads of what `run` sends. -/
def heardFrom (env : Surroundings) (address : UInt64) (fd : Nat) : List (Option Response) :=
  ((run env address).2.received fd).map Response.decode

section

variable (env : Surroundings) {address : UInt64} {fd : Nat}

/-- An error is read as what was sent. -/
theorem heard_emitError (nonzero : address ≠ 0) (serves : Serves env.transport fd) (err : Int32) :
    ((emitError env.transport address err).received fd).map Response.decode =
      [some (.gattError ⟨address, 0, err⟩)] := by
  have some_ : GattErrorResponse.encode ⟨address, 0, err⟩ ≠ [] := by
    simp [GattErrorResponse.encode, Theory.Protobuf.varintField_ne_nil (toNat_ne_zero nonzero)]
  have sent := (sendAsync_fits {} msgErrorResponse serves some_ (length_error_le _)).2
  have decoded := decode_message (.gattError ⟨address, 0, err⟩)
    ((length_error_le _).trans_lt (by decide))
  rw [emitError, sent]
  exact congrArg (fun r => [r]) decoded

/-- Both messages are read, or there is none. -/
theorem heard_sendServices (nonzero : address ≠ 0) (serves : Serves env.transport fd)
    (table : List RemoteService) :
    ((sendServices env.transport address table).2.received fd).map Response.decode =
      if responseSize address table ≤ 2048 then
        [some (.services (servicesResponse address table)), some (.servicesDone address)]
      else [] := by
  rw [← length_response]
  have some_ : (servicesResponse address table).encode ≠ [] := by
    simp [GetServicesResponse.encode, servicesResponse,
      Theory.Protobuf.varintField_ne_nil (toNat_ne_zero nonzero)]
  unfold sendServices
  by_cases fits : (servicesResponse address table).encode.length ≤ 2048
  · obtain ⟨isSent, first⟩ := sendAsync_fits {} msgGetServicesResponse serves some_ fits
    generalize sendAsync env.transport {} msgGetServicesResponse
      (servicesResponse address table).encode = r at isSent first
    obtain ⟨sent, sends⟩ := r
    subst isSent
    have second := (sendAsync_fits sends msgGetServicesDoneResponse serves
      (Theory.Protobuf.varintField_ne_nil (toNat_ne_zero nonzero)) (length_encodeDone_le address)).2
    have services := decode_message (.services (servicesResponse address table))
      (fits.trans_lt (by decide))
    have done := decode_message (.servicesDone address)
      ((length_encodeDone_le address).trans_lt (by decide))
    simp only at first second ⊢
    rw [encodeDone, second, first, if_pos fits]
    exact congrArg₂ (fun r r' => [r, r']) services done
  · obtain ⟨notSent, nothing⟩ := sendAsync_too_large env.transport fd {} msgGetServicesResponse
      (Nat.lt_of_not_le fits)
    generalize sendAsync env.transport {} msgGetServicesResponse
      (servicesResponse address table).encode = r at notSent nothing
    obtain ⟨sent, sends⟩ := r
    subst notSent
    rw [if_neg fits]
    exact congrArg (List.map Response.decode) nothing

theorem eq_of_map_some {rs : List Response} (rs' : List Response)
    (same : rs.map some = rs'.map some) : rs = rs' :=
  List.map_injective_iff.mpr (Option.some_injective _) same

/-- The services and the end mark are the table. -/
theorem collect_answer (address : UInt64) (table : List RemoteService) :
    collect address [] [.services (servicesResponse address table), .servicesDone address] =
      some (.table (seenTable table)) := by
  have same : (servicesResponse address table).address = address := rfl
  rw [collect, if_pos same, rebuild_servicesResponse]
  show collect address ([] ++ seenTable table) [.servicesDone address] = _
  rw [List.nil_append, collect, if_pos rfl]

end

end NimbleProxy.Api.DiscoveredTable
