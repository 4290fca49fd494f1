/-
# Backend.DeviceTable -- the table of devices in range

`scanner.cpp`: every advertisement is recorded in `g_devices`, one row for each address.
A new address is appended while there is room and takes the row with the least `last_ms`
in a full table. Once a minute the flush task drops the rows of devices that have not
been seen for half an hour; it moves the last row into each hole.

Both run under `g_mutex`, so a history of the table is a sequence of calls. Each has a
reading of the clock of its own, any number of 32 bits. The table is the list of the
first `g_device_count` rows; nothing reads the others.

What NimBLE has parsed out of an advertisement is an argument (`Advertised`), and so is
which of its literals `classify_device` has returned for it.
-/
import NimbleProxy.Theory.LruTable

namespace NimbleProxy.Backend.DeviceTable

open NimbleProxy.Theory

set_option autoImplicit false

/-! ## Rows -/

/-- The literals of `classify_device`. -/
def tagTexts : List String :=
  ["AltBeacon", "iBeacon·Tesla", "iBeacon·Estimote", "iBeacon·Kontakt", "iBeacon·RadBeacon",
    "iBeacon·AirLocate", "iBeacon", "AirDrop", "AirPods", "AirPlay", "Handoff", "WiFiSettings",
    "Hotspot", "NearbyAction", "NearbyInfo", "FindMy", "HomeKit", "Apple", "Microsoft", "Samsung",
    "Google", "Garmin", "Bose", "Sony", "Sonos", "Sennheiser", "Tile", "Ruuvi", "Victron", "Xiaomi",
    "Anker", "Nordic", "Espressif", "LG", "BTHome", "FastPair", "Eddystone", "ENS", "MiBeacon",
    "SwitchBot", "Battery", "EnvSense", "HID", "HeartRate", "Cycling", "DevInfo", "Tesla",
    "NordicUART", "TI SensorTag"]

/-- What `classify_device` returns, if not `nullptr`. -/
structure Tag where
  text : String
  known : text ∈ tagTexts
  deriving DecidableEq

structure DeviceRow where
  addr : UInt64 := 0
  addrType : UInt8 := 0
  rssi : Int8 := 0
  name : Vector UInt8 24 := .replicate 24 0
  advCount : UInt32 := 0
  lastMs : UInt32 := 0
  appearance : UInt16 := 0
  connectable : Bool := false
  tag : Option Tag := none
  deriving DecidableEq

/-- What `record_device` reads of a `NimBLEAdvertisedDevice`. -/
structure Advertised where
  /-- `getName` -/
  name : List UInt8 := []
  rssi : Int8
  /-- `haveAppearance` and `getAppearance` -/
  appearance : Option UInt16 := none
  connectable : Bool := false
  /-- `classify_device` -/
  tag : Option Tag := none

/-- `DEV_CAP`. -/
def devCap : Nat := 64

/-- `DEVICE_STALE_MS`. -/
def deviceStaleMs : UInt32 := 30 * 60 * 1000

/-! ## The calls -/

/-- `last_ms` of the row at an index. -/
def lastMsAt (rows : List DeviceRow) (i : Nat) : Nat :=
  (rows.getD i {}).lastMs.toNat

/-- `find_or_alloc_device`: the table, and the index of the row of `addr`. -/
def findOrAllocDevice (rows : List DeviceRow) (addr : UInt64) : List DeviceRow × Nat :=
  match rows.findIdx? fun row => row.addr == addr with
  | some i => (rows, i)
  | none =>
      if rows.length < devCap then (rows ++ [{ addr }], rows.length)
      else
        let oldest := LruTable.leastLoop (lastMsAt rows) 0 1 (devCap - 1)
        (rows.set oldest { addr }, oldest)

/-- The name is cut off, and the bytes behind its end stay. -/
def storeName (old : Vector UInt8 24) (name : List UInt8) : Vector UInt8 24 :=
  let k := min name.length 23
  Vector.ofFn fun i =>
    if i.val < k then name.getD i.val 0 else if i.val = k then 0 else old[i]

/-- The assignments of `record_device` to a row. -/
def DeviceRow.sighted (row : DeviceRow) (dev : Advertised) (addrType : UInt8) (nowMs : UInt32) :
    DeviceRow :=
  let app := dev.appearance.getD 0
  { row with
    addrType
    rssi := dev.rssi
    advCount := row.advCount + 1
    lastMs := nowMs
    appearance := if app ≠ 0 then app else row.appearance
    connectable := dev.connectable
    tag := if dev.tag.isSome then dev.tag else row.tag
    name := if dev.name ≠ [] then storeName row.name dev.name else row.name }

/-- `record_device`. -/
def recordDevice (rows : List DeviceRow) (dev : Advertised) (addr : UInt64) (addrType : UInt8)
    (nowMs : UInt32) : List DeviceRow :=
  let (rows, i) := findOrAllocDevice rows addr
  rows.modify i fun row => row.sighted dev addrType nowMs

/-- `now_ms - last_ms > DEVICE_STALE_MS`. -/
def DeviceRow.stale (row : DeviceRow) (nowMs : UInt32) : Bool :=
  deviceStaleMs < nowMs - row.lastMs

/-- `prune_stale_devices`. -/
def pruneStaleDevices (rows : List DeviceRow) (nowMs : UInt32) : List DeviceRow :=
  LruTable.sweep (fun row => row.stale nowMs) rows 0

inductive Call
  | record (dev : Advertised) (addr : UInt64) (addrType : UInt8) (nowMs : UInt32)
  | prune (nowMs : UInt32)

def apply (rows : List DeviceRow) : Call → List DeviceRow
  | .record dev addr addrType nowMs => recordDevice rows dev addr addrType nowMs
  | .prune nowMs => pruneStaleDevices rows nowMs

/-- The table after these calls. -/
def run (calls : List Call) : List DeviceRow :=
  calls.foldl apply []

/-! ## Recording is an upsert -/

section Record

variable {rows : List DeviceRow} {dev : Advertised} {addr : UInt64} {addrType : UInt8}
  {nowMs : UInt32}

/-- The new row of an address, from the one that it had. -/
def entryFor (dev : Advertised) (addr : UInt64) (addrType : UInt8) (nowMs : UInt32)
    (previous : Option DeviceRow) : DeviceRow :=
  (previous.getD { addr }).sighted dev addrType nowMs

theorem findIdx?_addr_some {i : Nat}
    (found : rows.findIdx? (fun row => row.addr == addr) = some i) :
    ∃ inside : i < rows.length, rows[i].addr = addr := by
  obtain ⟨inside, same, -⟩ := List.findIdx?_eq_some_iff_getElem.mp found
  exact ⟨inside, by simpa using same⟩

theorem findIdx?_addr_none (missing : rows.findIdx? (fun row => row.addr == addr) = none) :
    ∀ row ∈ rows, row.addr ≠ addr := by
  simpa [List.findIdx?_eq_none_iff] using missing

/-- The row that a full table gives up. -/
theorem oldest_spec (full : rows.length = devCap) :
    ∃ inside : LruTable.leastLoop (lastMsAt rows) 0 1 (devCap - 1) < rows.length,
      ∀ row ∈ rows,
        (rows[LruTable.leastLoop (lastMsAt rows) 0 1 (devCap - 1)]).lastMs.toNat ≤
          row.lastMs.toNat := by
  obtain ⟨inside, least⟩ := LruTable.leastLoop_spec (lastMsAt rows) (devCap - 1)
    Nat.zero_lt_one (fun j first => by
      obtain rfl : j = 0 := by omega
      exact Nat.le_refl _)
  have bound : 1 + (devCap - 1) = rows.length := full.symm
  rw [bound] at inside least
  refine ⟨inside, fun row mem => ?_⟩
  obtain ⟨j, below, rfl⟩ := List.getElem_of_mem mem
  have order := least j below
  simpa [lastMsAt, List.getD_eq_getElem?_getD, inside, below] using order

theorem recordDevice_known {i : Nat}
    (found : rows.findIdx? (fun row => row.addr == addr) = some i) (inside : i < rows.length) :
    recordDevice rows dev addr addrType nowMs =
      rows.set i (entryFor dev addr addrType nowMs (some rows[i])) := by
  simp only [recordDevice, findOrAllocDevice, found, List.modify_eq_set_getElem?,
    List.getElem?_eq_getElem inside]
  rfl

theorem recordDevice_room (missing : rows.findIdx? (fun row => row.addr == addr) = none)
    (room : rows.length < devCap) :
    recordDevice rows dev addr addrType nowMs =
      rows ++ [entryFor dev addr addrType nowMs none] := by
  simp only [recordDevice, findOrAllocDevice, missing, room, if_true, List.modify_eq_set_getElem?,
    List.getElem?_concat_length]
  exact List.set_append_right _ _ (Nat.le_refl _) |>.trans (by simp [entryFor])

theorem recordDevice_full (missing : rows.findIdx? (fun row => row.addr == addr) = none)
    (full : ¬ rows.length < devCap)
    (inside : LruTable.leastLoop (lastMsAt rows) 0 1 (devCap - 1) < rows.length) :
    recordDevice rows dev addr addrType nowMs =
      rows.set (LruTable.leastLoop (lastMsAt rows) 0 1 (devCap - 1))
        (entryFor dev addr addrType nowMs none) := by
  simp only [recordDevice, findOrAllocDevice, missing, full, if_false, List.modify_eq_set_getElem?,
    List.getElem?_set_self inside]
  exact List.set_set ..

/-- **`record_device` is an upsert.** -/
theorem recordDevice_upserts (bounded : rows.length ≤ devCap) (dev : Advertised) (addr : UInt64)
    (addrType : UInt8) (nowMs : UInt32) :
    LruTable.Upserted DeviceRow.addr (fun row => row.lastMs.toNat) devCap addr
      (entryFor dev addr addrType nowMs) rows (recordDevice rows dev addr addrType nowMs) := by
  cases found : rows.findIdx? fun row => row.addr == addr with
  | some i =>
      obtain ⟨inside, own⟩ := findIdx?_addr_some found
      rw [recordDevice_known found inside]
      exact LruTable.upserted_at inside own
  | none =>
      have new := findIdx?_addr_none found
      by_cases room : rows.length < devCap
      · rw [recordDevice_room found room]
        exact LruTable.upserted_append new room
      · obtain ⟨inside, least⟩ := oldest_spec (Nat.le_antisymm bounded (not_lt.mp room))
        rw [recordDevice_full found room inside]
        exact LruTable.upserted_over new (not_lt.mp room) inside least

theorem keyed_entryFor :
    LruTable.Keyed DeviceRow.addr addr (entryFor dev addr addrType nowMs) := by
  intro previous own
  cases previous with
  | none => rfl
  | some old => exact own old rfl

end Record

/-! ## Every history -/

structure Inv (rows : List DeviceRow) : Prop where
  distinct : (rows.map DeviceRow.addr).Nodup
  bounded : rows.length ≤ devCap
  /-- every name ends inside its array -/
  terminated : ∀ row ∈ rows, (0 : UInt8) ∈ row.name

theorem terminated_storeName (old : Vector UInt8 24) (name : List UInt8) :
    0 ∈ storeName old name := by
  have inside : min name.length 23 < 24 := by omega
  have ends : (storeName old name)[min name.length 23] = 0 := by
    unfold storeName
    rw [Vector.getElem_ofFn, if_neg (Nat.lt_irrefl _), if_pos rfl]
  exact ends ▸ Vector.getElem_mem inside

theorem inv_recordDevice {rows : List DeviceRow} (inv : Inv rows) (dev : Advertised)
    (addr : UInt64) (addrType : UInt8) (nowMs : UInt32) :
    Inv (recordDevice rows dev addr addrType nowMs) := by
  have upserted := recordDevice_upserts inv.bounded dev addr addrType nowMs
  refine ⟨upserted.nodup keyed_entryFor inv.distinct, upserted.length_le inv.bounded, ?_⟩
  refine upserted.all inv.terminated fun previous ended => ?_
  have before : (0 : UInt8) ∈ (previous.getD { addr }).name := by
    cases previous with
    | none => exact Vector.mem_replicate.mpr ⟨by decide, rfl⟩
    | some old => exact ended old rfl
  unfold entryFor DeviceRow.sighted
  dsimp only
  split
  · exact terminated_storeName _ _
  · exact before

/-- What is left is what is not stale. -/
theorem pruneStaleDevices_perm (rows : List DeviceRow) (nowMs : UInt32) :
    (pruneStaleDevices rows nowMs).Perm (rows.filter fun row => !row.stale nowMs) :=
  LruTable.sweep_perm _ rows

theorem inv_pruneStaleDevices {rows : List DeviceRow} (inv : Inv rows) (nowMs : UInt32) :
    Inv (pruneStaleDevices rows nowMs) := by
  have perm := pruneStaleDevices_perm rows nowMs
  have part := List.filter_sublist (l := rows) (p := fun row => !row.stale nowMs)
  refine ⟨?_, ?_, fun row mem => inv.terminated row (part.subset (perm.mem_iff.mp mem))⟩
  · exact (perm.map _).nodup_iff.mpr ((part.map _).nodup inv.distinct)
  · rw [perm.length_eq]
    exact part.length_le.trans inv.bounded

theorem inv_apply {rows : List DeviceRow} (inv : Inv rows) (call : Call) :
    Inv (apply rows call) := by
  cases call with
  | record dev addr addrType nowMs => exact inv_recordDevice inv dev addr addrType nowMs
  | prune nowMs => exact inv_pruneStaleDevices inv nowMs

theorem inv_run (calls : List Call) : Inv (run calls) := by
  have start : Inv [] := ⟨List.nodup_nil, Nat.zero_le _, nofun⟩
  unfold run
  generalize ([] : List DeviceRow) = rows at start
  induction calls generalizing rows with
  | nil => exact start
  | cons call rest ih => exact ih _ (inv_apply start call)

/-- What a call of `record_device` leaves. -/
structure Recorded (addr : UInt64) (nowMs : UInt32) (before after : List DeviceRow) : Prop where
  /-- one row has the address, seen now and once more than before -/
  one : ∃ row, after.filter (fun r => r.addr = addr) = [row] ∧ row.lastMs = nowMs ∧
    (∀ old ∈ before, old.addr = addr → row.advCount = old.advCount + 1) ∧
    ((∀ old ∈ before, old.addr ≠ addr) → row.advCount = 1)
  others : (∃ old ∈ before, old.addr = addr) ∨ before.length < devCap →
    (after.filter fun r => r.addr ≠ addr).Perm (before.filter fun r => r.addr ≠ addr)
  /-- one row of a full table makes room for a new address -/
  evicts : (∀ old ∈ before, old.addr ≠ addr) → before.length = devCap →
    ∃ gone rest, before.Perm (gone :: rest) ∧ (after.filter fun r => r.addr ≠ addr).Perm rest

theorem recorded {rows : List DeviceRow} (inv : Inv rows) (dev : Advertised) (addr : UInt64)
    (addrType : UInt8) (nowMs : UInt32) :
    Recorded addr nowMs rows (recordDevice rows dev addr addrType nowMs) := by
  have upserted := recordDevice_upserts inv.bounded dev addr addrType nowMs
  refine ⟨?_, upserted.others keyed_entryFor, fun new full => ?_⟩
  · obtain ⟨previous, only, known, unknown⟩ := upserted.own keyed_entryFor inv.distinct
    refine ⟨_, only, rfl, fun old mem same => ?_, fun new => ?_⟩
    · rw [known old mem same]
      rfl
    · rw [unknown new]
      rfl
  · obtain ⟨gone, rest, before, _, _, others⟩ := upserted.evicted keyed_entryFor new full.ge
    exact ⟨gone, rest, before, others⟩

/-- **The device table.** After every sequence of calls, whatever the clock has read, addresses
are distinct and no more than `DEV_CAP`; `record_device` touches the row of its address, and a full
table gives up one row for a new one; `prune_stale_devices` drops the stale rows and no others. -/
theorem device_table (calls : List Call) :
    ((run calls).map DeviceRow.addr).Nodup ∧ (run calls).length ≤ devCap ∧
      (∀ dev addr addrType nowMs,
        Recorded addr nowMs (run calls) (recordDevice (run calls) dev addr addrType nowMs)) ∧
      ∀ nowMs : UInt32, (pruneStaleDevices (run calls) nowMs).Perm
        ((run calls).filter fun row => ¬ deviceStaleMs < nowMs - row.lastMs) := by
  have inv := inv_run calls
  refine ⟨inv.distinct, inv.bounded, recorded inv, fun nowMs => ?_⟩
  simpa only [DeviceRow.stale, decide_not] using pruneStaleDevices_perm (run calls) nowMs

end NimbleProxy.Backend.DeviceTable
