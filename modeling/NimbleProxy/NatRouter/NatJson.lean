/-
# NatRouter.NatJson -- GET /nat

`nat_get` and `append_stations_json` of `nat_router.cpp`. The object is printed piece by
piece into 3072 bytes, with an offset that advances by the length of each text. The two
loops stop while a station, or a rule, still fits; so the offset stays in the buffer, and
what is sent is what was printed (`natGet_written`).

The names of the clients are escaped. The name of the SoftAP is printed as it stands, and the
object is the one that is meant exactly if it needs no escapes (`nat_get_iff`).

Strings are compared byte by byte. What the radio, the DHCP server and the hook for the
hostnames know is part of the state.
-/
import Mathlib.Algebra.Order.BigOperators.Group.List
import NimbleProxy.NatRouter.PortTable
import NimbleProxy.Theory.CString
import NimbleProxy.Theory.OffsetPrint
import NimbleProxy.Theory.PrintedJson

namespace NimbleProxy.NatRouter.NatJson

open NimbleProxy.Theory CString BoundedPrint PortTable
open NimbleProxy.Theory.Json (Plain boolText decimal escape hexByte hexDigit integer memberText opened quote
  separated)

set_option autoImplicit false

/-! ## The router -/

structure Mac where
  a : UInt8
  b : UInt8
  c : UInt8
  d : UInt8
  e : UInt8
  f : UInt8
  deriving DecidableEq

/-- `wifi_sta_info_t`. -/
structure Station where
  mac : Mac
  rssi : Int8

/-- `wifi_sta_list_t`, with its `num` an `int`. -/
structure StationList where
  sta : List Station
  bounded : sta.length < 2 ^ 31

/-- What `dhcps_hostname_lookup` finds; the name of a client that has sent none is empty. -/
structure Hostname where
  bytes : List UInt8
  short : bytes.length ≤ 31
  printable : ∀ c ∈ bytes, 32 ≤ c ∧ c < 127

structure Router where
  /-- `g_enabled` -/
  enabled : Bool
  /-- `g_ap_ssid` -/
  ssid : Text 33
  /-- `g_ap_psk` -/
  psk : Text 64
  /-- the address of the SoftAP -/
  apIp : UInt32
  /-- `g_sta_ip` -/
  staIp : UInt32
  /-- `CONFIG_NBP_NAT_AP_MAX_CONN` -/
  maxConn : UInt8
  stations : StationList
  /-- what `esp_wifi_ap_get_sta_list_with_ip` answers -/
  leases : List (Mac × UInt32)
  hostname : Mac → Hostname
  /-- `g_portmap` -/
  table : Table

/-! ## The texts -/

/-- `(net >> shift) & 0xff`. -/
def octet (net shift : UInt32) : Nat := ((net >>> shift) &&& 0xff).toNat

/-- `%u.%u.%u.%u`. -/
def ipText (net : UInt32) : List UInt8 :=
  decimal (octet net 0) ++ 46 :: (decimal (octet net 8) ++ 46 :: (decimal (octet net 16) ++
    46 :: decimal (octet net 24)))

/-- `ip_to_str` into 16 bytes. -/
def ipToStr (net : UInt32) : List UInt8 := taken 16 (ipText net)

/-- `%02x`. -/
def hex02 (c : UInt8) : List UInt8 := hexByte hexDigit c.toNat

def macText (mac : Mac) : List UInt8 :=
  hex02 mac.a ++ 58 :: (hex02 mac.b ++ 58 :: (hex02 mac.c ++ 58 :: (hex02 mac.d ++
    58 :: (hex02 mac.e ++ 58 :: hex02 mac.f))))

/-- The loop that fills the 64 bytes of `esc`, from `e` on. -/
def escapeHost (e : Nat) : List UInt8 → List UInt8
  | [] => []
  | c :: rest =>
      if e < 62 then
        if c = 34 ∨ c = 92 then 92 :: c :: escapeHost (e + 2) rest else c :: escapeHost (e + 1) rest
      else []

variable (r : Router)

/-- The address that was leased to a station, 0 if there is none. -/
def leased (mac : Mac) : UInt32 := (r.leases.lookup mac).getD 0

def stationText (s : Station) : List UInt8 :=
  ascii "\x7b\"mac\":\"" ++ (macText s.mac ++ (ascii "\",\"ip\":\"" ++ (ipToStr (leased r s.mac) ++
    (ascii "\",\"rssi\":" ++ (integer s.rssi.toInt ++ (ascii ",\"hostname\":\"" ++
      (escapeHost 0 (r.hostname s.mac).bytes ++ ascii "\"\x7d")))))))

def protoText (proto : UInt8) : List UInt8 := if proto = protoTcp then ascii "tcp" else ascii "udp"

def ruleText (entry : PortmapEntry) : List UInt8 :=
  ascii "\x7b\"proto\":\"" ++ (protoText entry.proto ++ (ascii "\",\"mport\":" ++
    (decimal entry.mport.toNat ++ (ascii ",\"daddr\":\"" ++ (ipToStr entry.daddr ++
      (ascii "\",\"dport\":" ++ (decimal entry.dport.toNat ++ ascii "\x7d")))))))

def enabledText : List UInt8 :=
  ascii "\x7b\"enabled\":" ++ (boolText r.enabled ++ ascii ",\"ssid\":\"")

/-- The first `snprintf`, from the name on. -/
def restText : List UInt8 :=
  ascii "\",\"open\":" ++ (boolText (r.psk.bytes.length < 8) ++ (ascii ",\"ap_ip\":\"" ++
    (ipToStr r.apIp ++ (ascii "\",\"sta_ip\":\"" ++ (ipToStr r.staIp ++ (ascii "\",\"clients\":" ++
      (decimal r.stations.sta.length ++ (ascii ",\"max\":" ++ (decimal r.maxConn.toNat ++
        ascii ",")))))))))

def headText : List UInt8 := enabledText r ++ (r.ssid.bytes ++ restText r)

/-! ## The program -/

def appendStationsJson (buf cap : Nat) (w : Writer) : Writer :=
  let w := append buf cap (ascii "\"stations\":[") w
  let w := printEach buf cap 160 (fun _ => false) (stationText r) true r.stations.sta w
  append buf cap (ascii "]") w

/-- `nat_get`; the first `pos` bytes at `buf` are sent. -/
def natGet (buf : Nat) (mem : Memory) : Writer :=
  let w := append buf 3072 (headText r) ⟨mem, 0⟩
  let w := appendStationsJson r buf 3072 w
  let w := append buf 3072 (ascii ",\"portmaps\":[") w
  let w := printEach buf 3072 96 (fun entry => !entry.valid) ruleText true r.table.entries w
  append buf 3072 (ascii "]\x7d") w

/-! ## The object -/

def stationJson (s : Station) : Json :=
  .obj [(ascii "mac", .str (macText s.mac)), (ascii "ip", .str (ipText (leased r s.mac))),
    (ascii "rssi", .num s.rssi.toInt), (ascii "hostname", .str (r.hostname s.mac).bytes)]

def ruleJson (entry : PortmapEntry) : Json :=
  .obj [(ascii "proto", .str (protoText entry.proto)), (ascii "mport", .num entry.mport.toNat),
    (ascii "daddr", .str (ipText entry.daddr)), (ascii "dport", .num entry.dport.toNat)]

/-- From the name on, with these stations and rules. -/
def behindSsid (stations : List Station) (rules : List PortmapEntry) : List (List UInt8 × Json) :=
  [(ascii "open", .bool (r.psk.bytes.length < 8)), (ascii "ap_ip", .str (ipText r.apIp)),
    (ascii "sta_ip", .str (ipText r.staIp)), (ascii "clients", .num r.stations.sta.length),
    (ascii "max", .num r.maxConn.toNat), (ascii "stations", .arr (stations.map (stationJson r))),
    (ascii "portmaps", .arr (rules.map ruleJson))]

def natJson (stations : List Station) (rules : List PortmapEntry) : Json :=
  .obj ([(ascii "enabled", .bool r.enabled)] ++
    (ascii "ssid", .str r.ssid.bytes) :: behindSsid r stations rules)

/-! ## The texts as values -/

section Texts

variable {r : Router}

theorem octet_lt (net shift : UInt32) : octet net shift < 256 := by
  have low : (net >>> shift).toNat &&& 255 ≤ 255 := Nat.and_le_right
  rw [octet, UInt32.toNat_and]
  exact Nat.lt_succ_of_le low

theorem length_octet (net shift : UInt32) : (decimal (octet net shift)).length ≤ 3 :=
  Json.length_decimal_le (by decide) (Nat.lt_trans (octet_lt net shift) (by decide))

theorem length_ipText (net : UInt32) : (ipText net).length ≤ 15 := by
  have first := length_octet net 0
  have second := length_octet net 8
  have third := length_octet net 16
  have fourth := length_octet net 24
  simp only [ipText, List.length_append, List.length_cons]
  omega

theorem ipToStr_eq (net : UInt32) : ipToStr net = ipText net :=
  taken_fits (Nat.lt_succ_of_le (length_ipText net))

theorem plain_ipText (net : UInt32) : Plain (ipText net) := by
  have dot : Plain [46] := by decide
  have part (shift : UInt32) : Plain (decimal (octet net shift)) := Json.plain_decimal _
  exact (part 0).append (dot.append ((part 8).append (dot.append ((part 16).append (dot.append
    (part 24))))))

theorem plain_macText (mac : Mac) : Plain (macText mac) := by
  have byte (c : UInt8) : Plain (hex02 c) := Json.plain_hexByte c.toNat_lt
  exact Json.forall_mem_colons (by decide) (byte _) (byte _) (byte _) (byte _) (byte _) (byte _)

theorem plain_protoText (proto : UInt8) : Plain (protoText proto) := by
  unfold protoText
  split <;> decide

/-- There is room in `esc` for every name. -/
theorem escapeHost_eq (e : Nat) (bytes : List UInt8) (room : e + 2 * bytes.length ≤ 62)
    (printable : ∀ c ∈ bytes, 32 ≤ c ∧ c < 127) : escapeHost e bytes = bytes.flatMap escape := by
  induction bytes generalizing e with
  | nil => rfl
  | cons c rest ih =>
      rw [List.length_cons] at room
      have later := fun x mem => printable x (List.mem_cons_of_mem c mem)
      have plain : ¬ c < 32 := UInt8.not_lt.mpr (printable c List.mem_cons_self).1
      rw [escapeHost, if_pos (by omega), List.flatMap_cons, escape]
      split
      · rw [ih (e + 2) (by omega) later]
        rfl
      · rw [ih (e + 1) (by omega) later]
        rfl

theorem escapeHost_hostname (name : Hostname) :
    escapeHost 0 name.bytes = name.bytes.flatMap escape :=
  escapeHost_eq 0 name.bytes (by have := name.short; omega) name.printable

theorem length_flatMap_escape (name : Hostname) : (name.bytes.flatMap escape).length ≤ 62 := by
  have short := name.short
  have each : ∀ c ∈ name.bytes, (escape c).length ≤ 2 := by
    intro c mem
    have plain : ¬ c < 32 := UInt8.not_lt.mpr (name.printable c mem).1
    rw [escape]
    split
    · exact Nat.le_refl 2
    · exact Nat.le_succ 1
  rw [List.length_flatMap]
  have total := List.sum_le_card_nsmul (name.bytes.map fun c => (escape c).length) 2 (by
    intro n mem
    obtain ⟨c, own, rfl⟩ := List.mem_map.mp mem
    exact each c own)
  rw [List.length_map] at total
  change _ ≤ name.bytes.length * 2 at total
  omega

theorem stationText_eq (r : Router) (s : Station) :
    stationText r s = (stationJson r s).render := by
  have words : ascii "\x7b\"mac\":\"" = 123 :: (quote (ascii "mac") ++ [58, 34]) ∧
      ascii "\",\"ip\":\"" = 34 :: 44 :: (quote (ascii "ip") ++ [58, 34]) ∧
      ascii "\",\"rssi\":" = 34 :: 44 :: (quote (ascii "rssi") ++ [58]) ∧
      ascii ",\"hostname\":\"" = 44 :: (quote (ascii "hostname") ++ [58, 34]) ∧
      ascii "\"\x7d" = [34, 125] := by decide
  have name : quote (r.hostname s.mac).bytes =
      34 :: ((r.hostname s.mac).bytes.flatMap escape ++ [34]) := rfl
  rw [stationJson, Json.render_obj_cons, stationText, escapeHost_hostname, ipToStr_eq]
  simp only [words, Json.more_cons, Json.more_nil, Json.memberText_str, Json.memberText_num, name,
    (plain_macText s.mac).quote, (plain_ipText (leased r s.mac)).quote]
  simp

theorem ruleText_eq (entry : PortmapEntry) : ruleText entry = (ruleJson entry).render := by
  have words : ascii "\x7b\"proto\":\"" = 123 :: (quote (ascii "proto") ++ [58, 34]) ∧
      ascii "\",\"mport\":" = 34 :: 44 :: (quote (ascii "mport") ++ [58]) ∧
      ascii ",\"daddr\":\"" = 44 :: (quote (ascii "daddr") ++ [58, 34]) ∧
      ascii "\",\"dport\":" = 34 :: 44 :: (quote (ascii "dport") ++ [58]) ∧
      ascii "\x7d" = [125] := by decide
  rw [ruleJson, Json.render_obj_cons, ruleText, ipToStr_eq]
  simp only [words, Json.more_cons, Json.more_nil, Json.memberText_str, Json.memberText_nat,
    (plain_protoText entry.proto).quote, (plain_ipText entry.daddr).quote]
  simp

theorem length_rssi (rssi : Int8) : (integer rssi.toInt).length ≤ 4 := by
  have low := rssi.le_toInt
  have high := rssi.toInt_lt
  exact Json.length_integer_le (k := 3) (by decide) (by norm_num; omega) (by norm_num; omega)

/-- A station and its comma fit into the reserve. -/
theorem length_stationText (r : Router) (s : Station) : (stationText r s).length + 1 ≤ 139 := by
  have words : (ascii "\x7b\"mac\":\"").length = 8 ∧ (ascii "\",\"ip\":\"").length = 8 ∧
      (ascii "\",\"rssi\":").length = 9 ∧ (ascii ",\"hostname\":\"").length = 13 ∧
      (ascii "\"\x7d").length = 2 := by decide
  have mac : (macText s.mac).length = 17 := rfl
  have ip := length_ipText (leased r s.mac)
  have rssi := length_rssi s.rssi
  have name := length_flatMap_escape (r.hostname s.mac)
  rw [stationText, escapeHost_hostname, ipToStr_eq]
  simp only [List.length_append, words, mac]
  omega

theorem length_port (port : UInt16) : (decimal port.toNat).length ≤ 5 :=
  Json.length_decimal_le (by decide) (Nat.lt_trans port.toNat_lt (by decide))

theorem length_ruleText (entry : PortmapEntry) : (ruleText entry).length + 1 ≤ 70 := by
  have words : (ascii "\x7b\"proto\":\"").length = 10 ∧ (ascii "\",\"mport\":").length = 10 ∧
      (ascii ",\"daddr\":\"").length = 10 ∧ (ascii "\",\"dport\":").length = 10 ∧
      (ascii "\x7d").length = 1 := by decide
  have proto : (protoText entry.proto).length = 3 := by
    unfold protoText
    split <;> rfl
  have ip := length_ipText entry.daddr
  have mport := length_port entry.mport
  have dport := length_port entry.dport
  rw [ruleText, ipToStr_eq]
  simp only [List.length_append, words, proto]
  omega

theorem length_headText (r : Router) : (headText r).length ≤ 156 := by
  have words : (ascii "\x7b\"enabled\":").length = 11 ∧ (ascii ",\"ssid\":\"").length = 9 ∧
      (ascii "\",\"open\":").length = 9 ∧ (ascii ",\"ap_ip\":\"").length = 10 ∧
      (ascii "\",\"sta_ip\":\"").length = 12 ∧ (ascii "\",\"clients\":").length = 12 ∧
      (ascii ",\"max\":").length = 7 ∧ (ascii ",").length = 1 := by decide
  have enabled := Json.length_boolText_le r.enabled
  have name := r.ssid.short
  have isOpen := Json.length_boolText_le (r.psk.bytes.length < 8)
  have ap := length_ipText r.apIp
  have sta := length_ipText r.staIp
  have clients : (decimal r.stations.sta.length).length ≤ 10 :=
    Json.length_decimal_le (by decide) (Nat.lt_trans r.stations.bounded (by decide))
  have most : (decimal r.maxConn.toNat).length ≤ 3 :=
    Json.length_decimal_le (by decide) (Nat.lt_trans r.maxConn.toNat_lt (by decide))
  simp only [headText, enabledText, restText, ipToStr_eq, List.length_append, words]
  omega

end Texts

/-! ## What is printed -/

/-- The text up to the end of the first `k` stations. -/
def stationsPart (stations : List Station) : List UInt8 :=
  headText r ++ (ascii "\"stations\":[" ++ separated (stations.map (stationText r)))

/-- And up to the end of the rules. -/
def rulesPart (stations : List Station) (rules : List PortmapEntry) : List UInt8 :=
  stationsPart r stations ++ (ascii "],\"portmaps\":[" ++ separated (rules.map ruleText))

def bodyText (stations : List Station) (rules : List PortmapEntry) : List UInt8 :=
  rulesPart r stations rules ++ ascii "]\x7d"

variable {r}

/-- Stations are left out if fewer than 160 bytes are left. -/
theorem appendStationsJson_written {r : Router} {buf : Nat} {mem : Memory} {w : Writer}
    (start : Written buf 3072 mem w (headText r)) :
    ∃ k, Written buf 3072 mem (appendStationsJson r buf 3072 w)
        (stationsPart r (r.stations.sta.take k) ++ ascii "]") ∧
      (k < r.stations.sta.length →
        3072 ≤ (stationsPart r (r.stations.sta.take k)).length + 160) ∧
      (stationsPart r (r.stations.sta.take k)).length ≤ 3050 := by
  have small : 3072 < 2 ^ 32 := by decide
  have words : (ascii "\"stations\":[").length = 12 ∧ (ascii "]").length = 1 := by decide
  have head := length_headText r
  have opens : Written buf 3072 mem _ (headText r ++ ascii "\"stations\":[") :=
    start.append small (by omega)
  obtain ⟨k, stations, reached, near⟩ := opens.printEach (fun _ => false) (stationText r) true small
    (show 139 ≤ 160 by decide) r.stations.sta fun s _ _ => length_stationText r s
  have text (shown : List Station) :
      headText r ++ ascii "\"stations\":[" ++ listed true (shown.map (stationText r)) =
        stationsPart r shown := List.append_assoc _ _ _
  simp only [Bool.not_false, List.filter_true, text] at stations reached near
  rw [List.length_append, words.1] at near
  exact ⟨k, stations.append small (by omega), reached, by omega⟩

/-- **What is in the buffer.** And rules are left out if fewer than 96 bytes are left. -/
theorem natGet_written (r : Router) (buf : Nat) (mem : Memory) :
    ∃ k m, Written buf 3072 mem (natGet r buf mem)
        (bodyText r (r.stations.sta.take k) (r.table.rules.take m)) ∧
      (k < r.stations.sta.length →
        3072 ≤ (stationsPart r (r.stations.sta.take k)).length + 160) ∧
      (m < r.table.rules.length →
        3072 ≤ (rulesPart r (r.stations.sta.take k) (r.table.rules.take m)).length + 96) := by
  have small : 3072 < 2 ^ 32 := by decide
  have words : (ascii "]").length = 1 ∧ (ascii ",\"portmaps\":[").length = 13 ∧
      (ascii "]\x7d").length = 2 := by decide
  have head := length_headText r
  have start : Written buf 3072 mem (append buf 3072 (headText r) ⟨mem, 0⟩) (headText r) :=
    (written_start (by decide) mem).append small (by rw [List.length_nil]; omega)
  obtain ⟨k, stations, reached, short⟩ := appendStationsJson_written start
  have opens : Written buf 3072 mem _
      (stationsPart r (r.stations.sta.take k) ++ ascii "]" ++ ascii ",\"portmaps\":[") :=
    stations.append small (by rw [List.length_append]; omega)
  obtain ⟨m, rules, reached', near⟩ := opens.printEach (fun entry => !entry.valid) ruleText true
    small (show 70 ≤ 96 by decide) r.table.entries fun entry _ _ => length_ruleText entry
  have text (shown : List PortmapEntry) :
      stationsPart r (r.stations.sta.take k) ++ ascii "]" ++ ascii ",\"portmaps\":[" ++
          listed true (shown.map ruleText) =
        rulesPart r (r.stations.sta.take k) shown := by
    rw [rulesPart, List.append_assoc, List.append_assoc]
    rfl
  have valid : (r.table.entries.filter fun entry => !!entry.valid) = r.table.rules := by
    simp only [Bool.not_not, Table.rules]
  simp only [valid, text] at rules reached' near
  rw [List.length_append, List.length_append] at near
  exact ⟨k, m, rules.append small (by omega), reached, reached'⟩

/-! ## What is read of it -/

section Object

variable {stations : List Station} {rules : List PortmapEntry}

/-- The text behind the name. -/
theorem restText_append (r : Router) (stations : List Station) (rules : List PortmapEntry) :
    restText r ++ (ascii "\"stations\":[" ++ (separated (stations.map (stationText r)) ++
      (ascii "],\"portmaps\":[" ++ (separated (rules.map ruleText) ++ ascii "]\x7d")))) =
    34 :: (Json.more (behindSsid r stations rules) ++ [125]) := by
  have words : ascii "\",\"open\":" = 34 :: 44 :: (quote (ascii "open") ++ [58]) ∧
      ascii ",\"ap_ip\":\"" = 44 :: (quote (ascii "ap_ip") ++ [58, 34]) ∧
      ascii "\",\"sta_ip\":\"" = 34 :: 44 :: (quote (ascii "sta_ip") ++ [58, 34]) ∧
      ascii "\",\"clients\":" = 34 :: 44 :: (quote (ascii "clients") ++ [58]) ∧
      ascii ",\"max\":" = 44 :: (quote (ascii "max") ++ [58]) ∧ ascii "," = [44] ∧
      ascii "\"stations\":[" = quote (ascii "stations") ++ [58, 91] ∧
      ascii "],\"portmaps\":[" = 93 :: 44 :: (quote (ascii "portmaps") ++ [58, 91]) ∧
      ascii "]\x7d" = [93, 125] := by decide
  have sta : stations.map (stationText r) = (stations.map (stationJson r)).map Json.render := by
    rw [List.map_map]
    exact List.map_congr_left fun s _ => stationText_eq r s
  have map : rules.map ruleText = (rules.map ruleJson).map Json.render := by
    rw [List.map_map]
    exact List.map_congr_left fun entry _ => ruleText_eq entry
  rw [sta, map, restText, ipToStr_eq, ipToStr_eq, behindSsid]
  simp only [words, Json.more_cons, Json.more_nil, Json.memberText_bool, Json.memberText_str,
    Json.memberText_nat, Json.memberText_arr, (plain_ipText r.apIp).quote, (plain_ipText r.staIp).quote]
  simp

/-- The text up to the name, the name as it stands, and what is behind it. -/
theorem bodyText_eq (r : Router) (stations : List Station) (rules : List PortmapEntry) :
    bodyText r stations rules =
      opened [(ascii "enabled", .bool r.enabled)] ++ (quote (ascii "ssid") ++
        58 :: 34 :: (r.ssid.bytes ++ 34 :: (Json.more (behindSsid r stations rules) ++ [125]))) := by
  have words : ascii "\x7b\"enabled\":" = 123 :: (quote (ascii "enabled") ++ [58]) ∧
      ascii ",\"ssid\":\"" = 44 :: (quote (ascii "ssid") ++ [58, 34]) := by decide
  rw [← restText_append, bodyText, rulesPart, stationsPart, headText, enabledText, opened, words.1,
    words.2]
  simp [Json.memberText_bool]

/-- A name that needs no escapes. -/
theorem bodyText_of_plain (plain : Plain r.ssid.bytes) :
    bodyText r stations rules = (natJson r stations rules).render := by
  rw [bodyText_eq, natJson, Json.render_opened, Json.memberText_str, plain.quote]
  simp

/-- And one that does is not read as it is. -/
theorem plain_of_bodyText
    (value : Json.parse (bodyText r stations rules) = some (natJson r stations rules)) :
    Plain r.ssid.bytes := by
  rw [bodyText_eq] at value
  exact Json.plain_of_parse value

end Object

/-- **GET /nat.** Nothing is written outside the buffer, and what is sent is what was printed: all
of it, with stations and rules left out only where there is no reserve for them. It is the object
that is meant exactly if the name of the SoftAP needs no escapes. -/
theorem nat_get_iff (r : Router) (buf : Nat) (mem : Memory) :
    let after := natGet r buf mem
    (∀ i, i < buf ∨ buf + 3072 ≤ i → after.mem i = mem i) ∧ after.pos < 3072 ∧
      ∃ k m, after.mem.load buf after.pos =
          bodyText r (r.stations.sta.take k) (r.table.rules.take m) ∧
        (k < r.stations.sta.length →
          3072 ≤ (stationsPart r (r.stations.sta.take k)).length + 160) ∧
        (m < r.table.rules.length →
          3072 ≤ (rulesPart r (r.stations.sta.take k) (r.table.rules.take m)).length + 96) ∧
        (Json.parse (after.mem.load buf after.pos) =
            some (natJson r (r.stations.sta.take k) (r.table.rules.take m)) ↔
          Plain r.ssid.bytes) := by
  obtain ⟨k, m, written, stations, rules⟩ := natGet_written r buf mem
  have sent := written.load
  rw [← written.pos] at sent
  refine ⟨written.frame, written.pos ▸ written.room, k, m, sent, stations, rules, ?_⟩
  rw [sent]
  refine ⟨plain_of_bodyText, fun plain => ?_⟩
  rw [bodyText_of_plain plain, Json.parse_render]

/-- A SoftAP that is off and has a quote in its name. -/
def quoted : Router where
  enabled := false
  ssid := ⟨ascii "Bob's \"den\"", by decide, by decide⟩
  psk := ⟨[], by decide, by decide⟩
  apIp := 0
  staIp := 0x3201A8C0
  maxConn := 4
  stations := ⟨[], by decide⟩
  leases := []
  hostname := fun _ => ⟨[], by decide, nofun⟩
  table := .zero 16

/-- What is sent is no JSON. -/
theorem quoted_name_unread :
    let after := natGet quoted 0 fun _ => 0
    Json.parse (after.mem.load 0 after.pos) = none := by
  intro after
  obtain ⟨k, m, written, _⟩ := natGet_written quoted 0 fun _ => 0
  have sent := written.load
  have noRules : quoted.table.rules = [] := Table.rules_zero 16
  have noStations : quoted.stations.sta = [] := rfl
  rw [← written.pos, noRules, noStations, List.take_nil, List.take_nil] at sent
  rw [sent]
  decide +kernel

end NimbleProxy.NatRouter.NatJson
