/-
# Clone.SeenServices -- once for each service

Two functions of `clone_mirror.cpp` go over the rows and do something once for each local
service: `finalize_server` asks the host for its handle, and `start_advertising` offers its
UUID to the advertisement. Both remember the services in `NimBLEService *seen[16]`, and only
the second looks whether there is room. The rows of more than 16 services take the first
behind the end of the array, and the second may offer the UUID of a service again at each of
its rows.

A `NimBLEService *` is a value of `LocalService`, of which each has its own `id`; the service
of a characteristic is never null. What is done with a service, its handle and the room in the
advertisement, is not read by the loops and left out.
-/
import NimbleProxy.Clone.Mirror
import NimbleProxy.Theory.SeenArray

namespace NimbleProxy.Clone.Mirror

open NimbleProxy.Theory.SeenArray
open NimbleProxy.Backend.GattDiscovery (RemoteService)

set_option autoImplicit false

deriving instance DecidableEq for LocalService

/-- `g_chars[i].local->getService()` of the rows. -/
def rowServices (rows : List MirrorChar) : List LocalService := rows.map fun row => row.localChar.service

/-- The services for which `finalize_server` calls `ble_gatts_find_svc`. -/
def probedServices (rows : List MirrorChar) : Option (List LocalService) :=
  processed (write 16) [] (rowServices rows)

/-- The services of which `start_advertising` offers the UUID. -/
def offeredServices (rows : List MirrorChar) : Option (List LocalService) :=
  processed (writeIfRoom 16) [] (rowServices rows)

/-- The services of the rows, each where it occurs first. -/
def distinctServices (rows : List MirrorChar) : List LocalService := (rowServices rows).eraseDups

/-- The 128-bit forms of their UUIDs. -/
def offeredUuids (services : List LocalService) : List (List UInt8) :=
  services.map fun service => service.uuid.to128

/-- Both loops stay in `seen` and process each service once, and no UUID is offered twice. -/
structure SeenLoops (rows : List MirrorChar) : Prop where
  probed : ∃ services, probedServices rows = some services ∧ OnceEach (rowServices rows) services
  offered : ∃ services, offeredServices rows = some services ∧ OnceEach (rowServices rows) services ∧
    (offeredUuids services).Nodup

section Loops

variable (rows : List MirrorChar)

theorem probedServices_eq :
    probedServices rows =
      if (distinctServices rows).length ≤ 16 then some (distinctServices rows) else none := by
  have loop : processed (write 16) [] (rowServices rows) =
      if ([] : List LocalService).length + (fresh [] (rowServices rows)).length ≤ 16 then
        some (fresh [] (rowServices rows))
      else none := processed_write (Nat.zero_le 16) (rowServices rows)
  rwa [List.length_nil, Nat.zero_add, fresh_nil_left] at loop

theorem offeredServices_of_few (few : (distinctServices rows).length ≤ 16) :
    offeredServices rows = some (distinctServices rows) := by
  have room : ([] : List LocalService).length + (fresh [] (rowServices rows)).length ≤ 16 := by
    rwa [List.length_nil, Nat.zero_add, fresh_nil_left]
  have loop := processed_writeIfRoom room
  rwa [fresh_nil_left] at loop

/-- `start_advertising` stays in the array, and processes each service once exactly if none behind
the first sixteen has a second row. -/
theorem offeredServices_once :
    ∃ services, offeredServices rows = some services ∧
      (OnceEach (rowServices rows) services ↔
        ∀ service ∈ (distinctServices rows).drop 16, (rowServices rows).count service = 1) := by
  obtain ⟨services, loop, -⟩ := count_processed_writeIfRoom 16 [] (rowServices rows)
  exact ⟨services, loop, onceEach_writeIfRoom_iff loop⟩

/-- **The two loops.** Both do what they are for exactly if there are no more than sixteen services
and no two of them have one UUID. -/
theorem seen_services :
    (SeenLoops rows ↔ (distinctServices rows).length ≤ 16 ∧
      (offeredUuids (distinctServices rows)).Nodup) ∧
    ((probedServices rows).isSome ↔ (distinctServices rows).length ≤ 16) ∧
    ∃ services, offeredServices rows = some services ∧
      (OnceEach (rowServices rows) services ↔
        ∀ service ∈ (distinctServices rows).drop 16, (rowServices rows).count service = 1) := by
  refine ⟨⟨?_, ?_⟩, ?_, offeredServices_once rows⟩
  · rintro ⟨⟨probed, inside, -⟩, ⟨offered, loop, -, uuids⟩⟩
    have few : (distinctServices rows).length ≤ 16 := by
      by_contra many
      rw [probedServices_eq, if_neg many] at inside
      cases inside
    rw [offeredServices_of_few rows few] at loop
    rw [← Option.some.inj loop] at uuids
    exact ⟨few, uuids⟩
  · rintro ⟨few, uuids⟩
    constructor
    · exact ⟨_, (probedServices_eq rows).trans (if_pos few), onceEach_eraseDups _⟩
    · exact ⟨_, offeredServices_of_few rows few, onceEach_eraseDups _, uuids⟩
  · rw [probedServices_eq, Option.isSome_ite]

end Loops

/-- Seventeen services with a characteristic each. -/
def seventeen : List RemoteService :=
  (List.range 17).map fun i =>
    { handle := UInt16.ofNat (3 * i + 1)
      uuid := .uuid16 (UInt16.ofNat (0x1810 + i))
      characteristics :=
        [{ handle := UInt16.ofNat (3 * i + 3)
           uuid := .uuid16 (UInt16.ofNat (0x2a80 + i))
           can := { read := true }
           descriptors := [] }] }

/-- They fit into the table, and `finalize_server` writes behind `seen`. -/
theorem seen_overrun :
    let rows := (buildFrom ⟨64, 64, true⟩ {} 0 seventeen []).1.chars
    rows.length = 17 ∧ probedServices rows = none ∧ ¬ SeenLoops rows := by
  have outside : probedServices (buildFrom ⟨64, 64, true⟩ {} 0 seventeen []).1.chars = none := by
    decide +kernel
  refine ⟨by decide +kernel, outside, fun loops => ?_⟩
  obtain ⟨services, inside, -⟩ := loops.probed
  rw [outside] at inside
  cases inside

end NimbleProxy.Clone.Mirror
