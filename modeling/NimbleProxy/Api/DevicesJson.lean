/-
# Api.DevicesJson -- the device table as a JSON text

`build_devices_json` of `stats.cpp`: a copy of the device table and one of the BTHome
cache are printed into a buffer of any size, with the cursor of `Theory.BoundedPrint`.
Everything goes through `snprintf` but the characters of a name and the closing quote and
brackets. Those are put where they are, behind a check of the room: more than eight
bytes for a character of a name, one or two for what closes.

A name is read to its first NUL. What stands in memory behind the array of a name that
has none is an argument. The optional parts are all compiled in; without them a row has
no details, and the cache is empty.

`devicesJson` is the value that the text is to have.
-/
import NimbleProxy.Backend.Bthome
import NimbleProxy.Backend.DeviceTable
import NimbleProxy.Theory.CString
import NimbleProxy.Theory.PrintedJson

namespace NimbleProxy.Api.DevicesJson

open NimbleProxy.Theory BoundedPrint CString
open NimbleProxy.Theory.Json (decimal integer hex4 hexByte upperDigit escape quote separated
  memberText)
open NimbleProxy.Backend.DeviceTable (DeviceRow Tag tagTexts)
open NimbleProxy.Backend.Bthome (Reading)

set_option autoImplicit false

/-! ## Formats -/

/-- `%02X`. -/
def hex02 (c : UInt8) : List UInt8 := hexByte upperDigit c.toNat

/-- `b[k]`. -/
def addrByte (addr : UInt64) (k : Nat) : UInt8 :=
  ((addr >>> UInt64.ofNat ((5 - k) * 8)) &&& 0xff).toUInt8

/-- `%02X:%02X:%02X:%02X:%02X:%02X`. -/
def addrText (addr : UInt64) : List UInt8 :=
  hex02 (addrByte addr 0) ++ 58 :: (hex02 (addrByte addr 1) ++ 58 :: (hex02 (addrByte addr 2) ++
    58 :: (hex02 (addrByte addr 3) ++ 58 :: (hex02 (addrByte addr 4) ++
      58 :: hex02 (addrByte addr 5)))))

/-- The bytes of a tag. -/
def tagBytes (tag : Tag) : List UInt8 := tag.text.toList.flatMap String.utf8EncodeChar

/-- `now_ms - r.last_ms`. -/
def age (nowMs : UInt32) (row : DeviceRow) : UInt32 := nowMs - row.lastMs

/-- What is printed of row `i` up to its name. -/
def headText (nowMs : UInt32) (i : Nat) (row : DeviceRow) : List UInt8 :=
  (if i ≠ 0 then ascii "," else []) ++ (ascii "\x7b\"addr\":\"" ++ (addrText row.addr ++
    (ascii "\",\"type\":" ++ (decimal row.addrType.toNat ++
    (ascii ",\"rssi\":" ++ (integer row.rssi.toInt ++
    (ascii ",\"count\":" ++ (decimal row.advCount.toNat ++
    (ascii ",\"age\":" ++ (decimal (age nowMs row).toNat ++ ascii ",\"name\":\""))))))))))

/-! ## The printer -/

section Printer

variable (buf cap : Nat)

def nameChar (c : UInt8) (w : Writer) : Writer :=
  if c = 34 ∨ c = 92 then put buf [92, c] w
  else if c < 0x20 then printf buf cap (ascii "\\u" ++ hex4 c.toNat) w
  else put buf [c] w

/-- The loop over the characters of a name. -/
def printName : List UInt8 → Writer → Writer
  | [], w => w
  | c :: rest, w => if rem cap w > 8 then printName rest (nameChar buf cap c w) else w

/-- `if (rem() >= 1) *p++ = c`. -/
def close (c : UInt8) (w : Writer) : Writer :=
  if rem cap w ≥ 1 then put buf [c] w else w

def printAppearance (row : DeviceRow) (w : Writer) : Writer :=
  if row.appearance ≠ 0 then
    printf buf cap (ascii ",\"app\":" ++ decimal row.appearance.toNat) w
  else w

def printConnectable (row : DeviceRow) (w : Writer) : Writer :=
  if row.connectable then printf buf cap (ascii ",\"conn\":1") w else w

def printTag (row : DeviceRow) (w : Writer) : Writer :=
  match row.tag with
  | none => w
  | some tag => printf buf cap (ascii ",\"tag\":\"" ++ (tagBytes tag ++ ascii "\"")) w

/-- The calls of `kv` and `kv_i`: whether the value is there, its key, and the value. -/
def fields (r : Reading) : List (Bool × String × Int) :=
  [(r.encrypted, "enc", 1),
    (r.haveTemperature, "t", r.temperatureC100.toInt),
    (r.haveHumidity, "h", r.humidityPct100.toNat),
    (r.haveBattery, "b", r.batteryPct.toNat),
    (r.haveVoltage, "v", r.voltageMv.toNat),
    (r.haveIlluminance, "l", r.illuminanceLx100.toNat),
    (r.haveMotion, "m", r.motion.toNat),
    (r.haveButton, "btn", r.buttonEvent.toNat),
    (r.havePower, "w", r.powerW100.toNat),
    (r.haveCo2, "co2", r.co2Ppm.toNat),
    (r.havePacketId, "p", r.packetId.toNat)]

/-- `kv`, with the calls that follow. -/
def printFields (first : Bool) : List (Bool × String × Int) → Writer → Writer
  | [], w => w
  | (false, _) :: rest, w => printFields first rest w
  | (true, k, v) :: rest, w =>
      let comma := if first then [] else ascii ","
      let text := comma ++ (ascii "\"" ++ (ascii k ++ (ascii "\":" ++ integer v)))
      printFields false rest (printf buf cap text w)

def printBthome (cache : List Reading) (row : DeviceRow) (w : Writer) : Writer :=
  match cache.find? fun r => r.addr == row.addr with
  | none => w
  | some r =>
      let w := printf buf cap (ascii ",\"bthome\":\x7b") w
      let w := printFields buf cap true (fields r) w
      close buf cap 125 w

/-- The bytes at `r.name` up to the first NUL; `behind` is what follows the array. -/
def nameBytes (behind : List UInt8) (row : DeviceRow) : List UInt8 :=
  upToNul (row.name.toList ++ behind)

/-- A round of the loop over the rows. -/
def printRow (nowMs : UInt32) (cache : List Reading) (behind : Nat → List UInt8) (i : Nat)
    (row : DeviceRow) (w : Writer) : Writer :=
  let w := printf buf cap (headText nowMs i row) w
  let w := printName buf cap (nameBytes (behind i) row) w
  let w := close buf cap 34 w
  let w := printAppearance buf cap row w
  let w := printConnectable buf cap row w
  let w := printTag buf cap row w
  let w := printBthome buf cap cache row w
  close buf cap 125 w

/-- `snapshot_devices`. -/
def snapshotDevices (table : List DeviceRow) (cap : Nat) : List DeviceRow := table.take cap

/-- `bthome::snapshot`. -/
def snapshot (cache : List Reading) (cap : Nat) : List Reading := cache.take cap

/-- `build_devices_json`: the memory after it, and what it returns as `pos`. -/
def buildDevicesJson (table : List DeviceRow) (cache : List Reading) (nowMs : UInt32)
    (behind : Nat → List UInt8) (mem : Memory) : Writer :=
  let snap := snapshotDevices table 64
  let bsnap := snapshot cache 32
  let w := printf buf cap (ascii "\x7b\"devices\":[") ⟨mem, 0⟩
  let w := snap.zipIdx.foldl (fun w (row, i) => printRow buf cap nowMs bsnap behind i row w) w
  if rem cap w ≥ 2 then put buf [93, 125] w else w

end Printer

/-! ## The value -/

def detailMembers (row : DeviceRow) : List (List UInt8 × Json) :=
  (if row.appearance ≠ 0 then [(ascii "app", .num row.appearance.toNat)] else []) ++
    ((if row.connectable then [(ascii "conn", .num 1)] else []) ++
      (row.tag.map fun tag => (ascii "tag", .str (tagBytes tag))).toList)

def fieldMembers (fields : List (Bool × String × Int)) : List (List UInt8 × Json) :=
  (fields.filter fun field => field.1).map fun field => (ascii field.2.1, .num field.2.2)

def bthomeMembers (cache : List Reading) (row : DeviceRow) : List (List UInt8 × Json) :=
  ((cache.find? fun r => r.addr == row.addr).map fun r =>
    (ascii "bthome", .obj (fieldMembers (fields r)))).toList

/-- A row with this name: its address, type, RSSI, count and age, and what else is known. -/
def rowJson (nowMs : UInt32) (cache : List Reading) (name : List UInt8) (row : DeviceRow) : Json :=
  .obj ([(ascii "addr", .str (addrText row.addr)),
    (ascii "type", .num row.addrType.toNat),
    (ascii "rssi", .num row.rssi.toInt),
    (ascii "count", .num row.advCount.toNat),
    (ascii "age", .num (age nowMs row).toNat),
    (ascii "name", .str name)] ++
    (detailMembers row ++ bthomeMembers cache row))

def devicesJson (nowMs : UInt32) (cache : List Reading) (rows : List DeviceRow) : Json :=
  .obj [(ascii "devices", .arr (rows.map fun row =>
    rowJson nowMs cache (upToNul row.name.toList) row))]

end NimbleProxy.Api.DevicesJson
