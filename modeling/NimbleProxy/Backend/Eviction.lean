/-
# Backend.Eviction -- which entry makes room

The device table and the BTHome cache evict by `last_ms`, "LRU-by-last_ms" in both
headers, and compare the time stamps as numbers. A stamp is a millisecond clock of 32
bits, which wraps after 49.7 days; a minute after that, the stamps from before it are the
greatest ones. `prune_stale_devices` subtracts first and does not mind.

So the entry that goes is the one that was seen least recently exactly if the clock has
not wrapped between any sighting and now, or has between all of them and now
(`eviction_oldest_iff`). A device that left before the wrap otherwise stays, and one that
was seen just now is dropped for the next newcomer.
-/
import NimbleProxy.Backend.DeviceTable
import NimbleProxy.Backend.Bthome

namespace NimbleProxy.Backend.Eviction

open NimbleProxy.Theory LruTable
open DeviceTable (DeviceRow Advertised recordDevice devCap)
open Bthome (Reading ingest cacheSize version)

set_option autoImplicit false

/-- A new address in a full device table. -/
structure DeviceArrival where
  calls : List DeviceTable.Call
  addr : UInt64
  full : (DeviceTable.run calls).length = devCap
  new : ∀ row ∈ DeviceTable.run calls, row.addr ≠ addr

/-- A frame from a new address, with a full cache. -/
structure FrameArrival where
  frames : List Bthome.Frame
  cache : List Reading
  addr : UInt64
  info : UInt8
  payload : List UInt8
  ran : Bthome.run frames = some cache
  full : cache.length = cacheSize
  new : ∀ entry ∈ cache, entry.addr ≠ addr
  v2 : version info = 0x02

theorem device_evicts_iff (device : DeviceArrival) (dev : Advertised) (addrType : UInt8)
    (nowMs : UInt32) :
    EvictsOldest DeviceRow.addr DeviceRow.lastMs device.addr nowMs (DeviceTable.run device.calls)
        (recordDevice (DeviceTable.run device.calls) dev device.addr addrType nowMs) ↔
      SameSide DeviceRow.lastMs nowMs (DeviceTable.run device.calls) :=
  (DeviceTable.recordDevice_upserts device.full.le dev device.addr addrType nowMs).evictsOldest_iff
    DeviceTable.keyed_entryFor device.new device.full.ge nowMs

theorem frame_evicts_iff (frame : FrameArrival) (nowMs : UInt32) :
    ∃ after, ingest frame.cache frame.addr (frame.info :: frame.payload) nowMs = some after ∧
      (EvictsOldest Reading.addr Reading.lastMs frame.addr nowMs frame.cache after ↔
        SameSide Reading.lastMs nowMs frame.cache) :=
  ⟨_, Bthome.ingest_v2 frame.v2, (Bthome.getSlot_upserts _ _ _).evictsOldest_iff
    (fun _ _ => Bthome.addr_entryOf frame.info frame.payload) frame.new frame.full.ge nowMs⟩

/-- **Eviction.** In every full table, whatever the clock has read, a new address takes the place
of the one that was seen least recently exactly if the last wrap of the clock does not separate
two of the sightings. -/
theorem eviction_oldest_iff (device : DeviceArrival) (frame : FrameArrival) (dev : Advertised)
    (addrType : UInt8) (nowMs : UInt32) :
    (EvictsOldest DeviceRow.addr DeviceRow.lastMs device.addr nowMs (DeviceTable.run device.calls)
        (recordDevice (DeviceTable.run device.calls) dev device.addr addrType nowMs) ↔
      SameSide DeviceRow.lastMs nowMs (DeviceTable.run device.calls)) ∧
    ∃ after, ingest frame.cache frame.addr (frame.info :: frame.payload) nowMs = some after ∧
      (EvictsOldest Reading.addr Reading.lastMs frame.addr nowMs frame.cache after ↔
        SameSide Reading.lastMs nowMs frame.cache) :=
  ⟨device_evicts_iff device dev addrType nowMs, frame_evicts_iff frame nowMs⟩

/-! ## A wrap -/

/-- The milliseconds since boot, as the calls read them. -/
def clock (ms : Nat) : UInt32 := UInt32.ofNat ms

/-- The calls are made at these times and in this order, before `now`. -/
def Timed (readings : List UInt32) (now : Nat) : Prop :=
  ∃ times : List Nat, (times ++ [now]).Pairwise (· ≤ ·) ∧ readings = times.map clock

def callClock : DeviceTable.Call → UInt32
  | .record _ _ _ nowMs => nowMs
  | .prune nowMs => nowMs

/-- Six milliseconds before the wrap. -/
def beforeWrap : Nat := 4294967290

/-- One address before the wrap, and `n` others ten milliseconds later. -/
def sightings (n : Nat) : List (Nat × UInt64) :=
  (beforeWrap, 100) :: (List.range n).map fun i => (beforeWrap + 10, UInt64.ofNat (200 + i))

theorem pairwise_sightings (n : Nat) :
    ((sightings n).map Prod.fst ++ [beforeWrap + 20]).Pairwise (· ≤ ·) := by
  simp only [sightings, List.map_cons, List.map_map, List.cons_append, List.pairwise_cons]
  refine ⟨fun t later => ?_, List.pairwise_append.mpr ⟨?_, List.pairwise_singleton .., ?_⟩⟩
  · rcases List.mem_append.mp later with mem | last
    · obtain ⟨_, -, rfl⟩ := List.mem_map.mp mem
      exact Nat.le_add_right _ _
    · obtain rfl := List.mem_singleton.mp last
      exact Nat.le_add_right _ _
  · exact List.pairwise_map.mpr (List.pairwise_of_forall fun _ _ => Nat.le_refl _)
  · intro t mem now last
    obtain ⟨_, -, rfl⟩ := List.mem_map.mp mem
    obtain rfl := List.mem_singleton.mp last
    exact Nat.add_le_add_left (by decide) _

def wrapCalls : List DeviceTable.Call :=
  (sightings 63).map fun (t, addr) => .record { rssi := -60 } addr 0 (clock t)

def wrapDevice : DeviceArrival where
  calls := wrapCalls
  addr := 300
  full := by decide +kernel
  new := by decide +kernel

def wrapFrames : List Bthome.Frame :=
  (sightings 31).map fun (t, addr) => ⟨addr, [0x40], clock t⟩

def wrapFrame : FrameArrival where
  frames := wrapFrames
  cache := (Bthome.run wrapFrames).getD []
  addr := 300
  info := 0x40
  payload := []
  ran := by decide +kernel
  full := by decide +kernel
  new := by decide +kernel
  v2 := by decide

/-- Twenty milliseconds after the first sighting, both tables drop an address of the second one. -/
theorem newest_evicted :
    ∃ (device : DeviceArrival) (frame : FrameArrival) (now : Nat),
      Timed (device.calls.map callClock) now ∧ Timed (frame.frames.map Bthome.Frame.nowMs) now ∧
      (∀ row ∈ DeviceTable.run device.calls, clock now - row.lastMs < 2147483648) ∧
      (∀ entry ∈ frame.cache, clock now - entry.lastMs < 2147483648) ∧
      (∀ dev addrType, ¬ EvictsOldest DeviceRow.addr DeviceRow.lastMs device.addr (clock now)
        (DeviceTable.run device.calls)
        (recordDevice (DeviceTable.run device.calls) dev device.addr addrType (clock now))) ∧
      ∃ after, ingest frame.cache frame.addr (frame.info :: frame.payload) (clock now) = some after ∧
        ¬ EvictsOldest Reading.addr Reading.lastMs frame.addr (clock now) frame.cache after := by
  refine ⟨wrapDevice, wrapFrame, beforeWrap + 20, ⟨_, pairwise_sightings 63, ?_⟩,
    ⟨_, pairwise_sightings 31, ?_⟩, by decide +kernel, by decide +kernel, fun dev addrType => ?_, ?_⟩
  · simp [wrapDevice, wrapCalls, callClock]
  · simp [wrapFrame, wrapFrames]
  · rw [device_evicts_iff]
    decide +kernel
  · obtain ⟨after, done, iff⟩ := frame_evicts_iff wrapFrame (clock (beforeWrap + 20))
    refine ⟨after, done, ?_⟩
    rw [iff]
    decide +kernel

end NimbleProxy.Backend.Eviction
