/-
# Clone.StatusJson -- what GET /clone sends

`build_clone_json` of `clone.cpp`: one `snprintf` of the target, the passkey and the counters
into the 384 bytes of `clone_get`. Three things in it are not what JSON asks for: the suffix
is printed as it is, the passkey has six digits whatever it is, and the longest text has 390
characters. `clone_body_iff` says that nothing else is wrong.

The addresses are printed by `fmt_mac` and read back by `parse_mac` (`parseMac_fmtMac`).
-/
import NimbleProxy.Clone.Config
import NimbleProxy.Theory.PrintedJson

namespace NimbleProxy.Clone.StatusJson

open NimbleProxy.Theory BoundedPrint CString
open NimbleProxy.Theory.Json (Plain decimal boolText quote memberText opened isDigit hexByte hexDigit
  hexValue parse_taken plain_of_parse parse_unreadable read_leading_zero render_opened)
open NimbleProxy.Clone.Config
open NimbleProxy.Clone.Upstream (UpState)

set_option autoImplicit false

/-! ## Addresses -/

section Mac

variable {acc : UInt64} {n : Nat} {rest : List UInt8}

theorem parseMacFrom_digit {v : Nat} (small : v < 16) :
    parseMacFrom acc n (hexDigit v :: rest) = parseMacFrom ((acc <<< 4) ||| UInt64.ofNat v) (n + 1) rest := by
  have digit : ∀ v < 16, hexDigit v ≠ 58 ∧ hexDigit v ≠ 45 := by decide
  have noSeparator : ¬ (hexDigit v = 58 ∨ hexDigit v = 45) := not_or.mpr (digit v small)
  rw [parseMacFrom, if_neg noSeparator, Json.hexValue_hexDigit v small]

/-- A digit behind the others. -/
theorem toNat_digit {v : Nat} (small : v < 16) (room : acc.toNat < 2 ^ 60) :
    ((acc <<< 4) ||| UInt64.ofNat v).toNat = 16 * acc.toNat + v := by
  have digit : (UInt64.ofNat v).toNat = v :=
    UInt64.toNat_ofNat_of_lt' (by simp only [UInt64.size]; omega)
  have shifted : (acc <<< 4).toNat = acc.toNat <<< 4 := by
    rw [UInt64.toNat_shiftLeft, Nat.mod_eq_of_lt]
    · rfl
    · simp only [UInt64.reduceToNat, Nat.reduceMod, Nat.shiftLeft_eq]
      omega
  rw [UInt64.toNat_or, digit, shifted, ← Nat.shiftLeft_add_eq_or_of_lt small, Nat.shiftLeft_eq]
  omega

theorem parseMacFrom_byte {c : UInt64} (byte : c.toNat < 256) (room : acc.toNat < 2 ^ 52) :
    ∃ acc' : UInt64, acc'.toNat = 256 * acc.toNat + c.toNat ∧
      ∀ n rest, parseMacFrom acc n (hex02 c ++ rest) = parseMacFrom acc' (n + 2) rest := by
  have high : c.toNat / 16 < 16 := by omega
  have low : c.toNat % 16 < 16 := by omega
  have first : ((acc <<< 4) ||| UInt64.ofNat (c.toNat / 16)).toNat = 16 * acc.toNat + c.toNat / 16 :=
    toNat_digit high (by omega)
  have second : ((((acc <<< 4) ||| UInt64.ofNat (c.toNat / 16)) <<< 4) |||
      UInt64.ofNat (c.toNat % 16)).toNat =
        16 * ((acc <<< 4) ||| UInt64.ofNat (c.toNat / 16)).toNat + c.toNat % 16 :=
    toNat_digit low (by omega)
  refine ⟨(((acc <<< 4) ||| UInt64.ofNat (c.toNat / 16)) <<< 4) ||| UInt64.ofNat (c.toNat % 16),
    by omega, fun n rest => ?_⟩
  rw [hex02, hexByte, List.cons_append, List.cons_append, List.nil_append, parseMacFrom_digit high,
    parseMacFrom_digit low]

theorem toNat_addrByte (addr : UInt64) (shift : UInt64) (small : shift.toNat < 64) :
    (addrByte addr shift).toNat = addr.toNat / 2 ^ shift.toNat % 256 := by
  have mask : addr.toNat >>> shift.toNat &&& 255 = addr.toNat >>> shift.toNat % 256 :=
    Nat.and_two_pow_sub_one_eq_mod _ 8
  rw [addrByte, UInt64.toNat_and, UInt64.toNat_shiftRight, Nat.mod_eq_of_lt small]
  exact mask.trans (by rw [Nat.shiftRight_eq_div_pow])

theorem parseMacFrom_colon : parseMacFrom acc n (58 :: rest) = parseMacFrom acc n rest :=
  if_pos (.inl rfl)

/-- A byte of an address behind the bytes above it. -/
theorem parseMacFrom_addrByte {addr : UInt64} (mac : addr.toNat < 2 ^ 48) (shift above : UInt64)
    (next : above.toNat = shift.toNat + 8) (low : above.toNat < 64) :
    parseMacFrom (addr >>> above) n (hex02 (addrByte addr shift) ++ rest) =
      parseMacFrom (addr >>> shift) (n + 2) rest := by
  have shifted (s : UInt64) (small : s.toNat < 64) :
      (addr >>> s).toNat = addr.toNat / 2 ^ s.toNat := by
    rw [UInt64.toNat_shiftRight, Nat.mod_eq_of_lt small, Nat.shiftRight_eq_div_pow]
  have byte := toNat_addrByte addr shift (by omega)
  have room : (addr >>> above).toNat < 2 ^ 52 := by
    rw [shifted above low]
    exact Nat.lt_trans (Nat.lt_of_le_of_lt (Nat.div_le_self _ _) mac) (by decide)
  obtain ⟨acc, sum, read⟩ := parseMacFrom_byte (by rw [byte]; exact Nat.mod_lt _ (by decide)) room
  have same : acc = addr >>> shift := by
    apply UInt64.toNat_inj.mp
    rw [sum, byte, shifted above low, shifted shift (by omega), next, Nat.pow_add,
      ← Nat.div_div_eq_div_mul]
    exact Nat.div_add_mod _ 256
  rw [read, same]

/-- **An address that was printed.** -/
theorem parseMac_fmtMac {addr : UInt64} (mac : addr.toNat < 2 ^ 48) :
    parseMac (fmtMac addr) = some addr := by
  have top : addr >>> 48 = 0 := by
    apply UInt64.toNat_inj.mp
    show addr.toNat >>> 48 = 0
    rw [Nat.shiftRight_eq_div_pow]
    exact Nat.div_eq_of_lt mac
  have last : parseMacFrom (addr >>> 8) 10 (hex02 (addrByte addr 0) ++ []) =
      parseMacFrom (addr >>> 0) 12 [] :=
    parseMacFrom_addrByte mac 0 8 rfl (by decide)
  rw [List.append_nil, UInt64.shiftRight_zero] at last
  have start : parseMac (fmtMac addr) = parseMacFrom (addr >>> 48) 0 (fmtMac addr) := by
    rw [parseMac, top]
  rw [start, fmtMac, parseMacFrom_addrByte mac 40 48 rfl (by decide),
    parseMacFrom_colon, parseMacFrom_addrByte mac 32 40 rfl (by decide),
    parseMacFrom_colon, parseMacFrom_addrByte mac 24 32 rfl (by decide),
    parseMacFrom_colon, parseMacFrom_addrByte mac 16 24 rfl (by decide),
    parseMacFrom_colon, parseMacFrom_addrByte mac 8 16 rfl (by decide),
    parseMacFrom_colon, last]
  rfl

end Mac

/-! ## The text -/

/-- The fields of `upstream::Status` that are printed. -/
structure Status where
  state : UpState
  mtu : UInt16
  reconnects : UInt32
  lastDisconnectReason : UInt32
  notifiesSeen : UInt32
  writesDrained : UInt32
  writesDropped : UInt32

/-- The fields of `mirror::Stats` that are printed. -/
structure Stats where
  notifiesOut : UInt32
  services : UInt16
  characteristics : UInt16
  connectedCentrals : UInt8
  advertising : Bool

def stateName : UpState → String
  | .disabled => "Disabled"
  | .idle => "Idle"
  | .scanning => "Scanning"
  | .connecting => "Connecting"
  | .discovering => "Discovering"
  | .ready => "Ready"
  | .reconnecting => "Reconnecting"

/-- `%06lu`. -/
def padded (n : Nat) : List UInt8 := List.replicate (6 - (decimal n).length) 48 ++ decimal n

section Format

variable (t : Target) (passkey : Option UInt32) (us : Status) (ms : Stats)

/-- The format up to `name_suffix`. -/
def frontText : List UInt8 :=
  ascii "\x7b\"enabled\":" ++ (boolText t.enabled ++ (ascii ",\"addr\":\"" ++ (fmtMac t.address ++
    (ascii "\",\"type\":" ++ (decimal t.addressType.toNat ++ ascii ",\"name_suffix\":\"")))))

/-- From the state on. -/
def backText : List UInt8 :=
  [ascii "\"state\":\"", ascii (stateName us.state),
    ascii "\",\"mtu\":", decimal us.mtu.toNat,
    ascii ",\"reconnects\":", decimal us.reconnects.toNat,
    ascii ",\"last_disconnect_reason\":", decimal us.lastDisconnectReason.toNat,
    ascii ",\"notifies_in\":", decimal us.notifiesSeen.toNat,
    ascii ",\"notifies_out\":", decimal ms.notifiesOut.toNat,
    ascii ",\"writes_drained\":", decimal us.writesDrained.toNat,
    ascii ",\"writes_dropped\":", decimal us.writesDropped.toNat,
    ascii ",\"services\":", decimal ms.services.toNat,
    ascii ",\"characteristics\":", decimal ms.characteristics.toNat,
    ascii ",\"connected_centrals\":", decimal ms.connectedCentrals.toNat,
    ascii ",\"advertising\":", boolText ms.advertising, ascii "\x7d"].flatten

/-- The passkey, in a build that has it. -/
def passkeyText : Option UInt32 → List UInt8
  | none => []
  | some passkey => ascii "\"passkey\":" ++ (padded passkey.toNat ++ ascii ",")

/-- The text of the format. -/
def cloneText : List UInt8 :=
  frontText t ++ (t.nameSuffix.bytes ++ (ascii "\"," ++ (passkeyText passkey ++ backText us ms)))

def buildCloneJson (cap : Nat) : List UInt8 := taken cap (cloneText t passkey us ms)

/-- `clone_get`. -/
def cloneGet : List UInt8 := buildCloneJson t passkey us ms 384

/-- The values up to the suffix. -/
def front : List (List UInt8 × Json) :=
  [(ascii "enabled", .bool t.enabled), (ascii "addr", .str (fmtMac t.address)),
    (ascii "type", .num t.addressType.toNat)]

/-- From the state on. -/
def back : List (List UInt8 × Json) :=
  [(ascii "state", .str (ascii (stateName us.state))), (ascii "mtu", .num us.mtu.toNat),
    (ascii "reconnects", .num us.reconnects.toNat),
    (ascii "last_disconnect_reason", .num us.lastDisconnectReason.toNat),
    (ascii "notifies_in", .num us.notifiesSeen.toNat),
    (ascii "notifies_out", .num ms.notifiesOut.toNat),
    (ascii "writes_drained", .num us.writesDrained.toNat),
    (ascii "writes_dropped", .num us.writesDropped.toNat),
    (ascii "services", .num ms.services.toNat),
    (ascii "characteristics", .num ms.characteristics.toNat),
    (ascii "connected_centrals", .num ms.connectedCentrals.toNat),
    (ascii "advertising", .bool ms.advertising)]

/-- The object that GET /clone is to send. -/
def cloneJson : Json :=
  .obj (front t ++ (ascii "name_suffix", .str t.nameSuffix.bytes) ::
    ((passkey.map fun passkey => (ascii "passkey", Json.num passkey.toNat)).toList ++ back us ms))

end Format

/-! ## The text as an object -/

section Text

variable {t : Target} {passkey : Option UInt32} {us : Status} {ms : Stats} {rest : List UInt8}

theorem plain_fmtMac (addr : UInt64) : Plain (fmtMac addr) := by
  have byte (shift : UInt64) (small : shift.toNat < 64) : Plain (hex02 (addrByte addr shift)) :=
    Json.plain_hexByte (by rw [toNat_addrByte addr shift small]; omega)
  exact Json.forall_mem_colons (by decide) (byte 40 (by decide)) (byte 32 (by decide))
    (byte 24 (by decide)) (byte 16 (by decide)) (byte 8 (by decide)) (byte 0 (by decide))

theorem plain_stateName (state : UpState) : Plain (ascii (stateName state)) := by
  cases state <;> decide

theorem frontText_append (t : Target) (rest : List UInt8) :
    frontText t ++ rest = opened (front t) ++ (quote (ascii "name_suffix") ++ 58 :: 34 :: rest) := by
  have enabled : ascii "\x7b\"enabled\":" = 123 :: (quote (ascii "enabled") ++ [58]) := by decide
  have addr : ascii ",\"addr\":\"" = 44 :: (quote (ascii "addr") ++ [58, 34]) := by decide
  have type : ascii "\",\"type\":" = 34 :: 44 :: (quote (ascii "type") ++ [58]) := by decide
  have suffix : ascii ",\"name_suffix\":\"" = 44 :: (quote (ascii "name_suffix") ++ [58, 34]) := by
    decide
  rw [frontText, enabled, addr, type, suffix, opened, front]
  simp only [List.flatMap_cons, List.flatMap_nil, Json.memberText_bool, Json.memberText_nat,
    Json.memberText_str, (plain_fmtMac t.address).quote]
  simp

theorem backText_eq (us : Status) (ms : Stats) :
    ∃ m after, back us ms = m :: after ∧ backText us ms = memberText m ++ (Json.more after ++ [125]) ∧
      (memberText m).head? = some 34 := by
  have words : ascii "\"state\":\"" = quote (ascii "state") ++ [58, 34] ∧
      ascii "\",\"mtu\":" = 34 :: 44 :: (quote (ascii "mtu") ++ [58]) ∧
      ascii ",\"reconnects\":" = 44 :: (quote (ascii "reconnects") ++ [58]) ∧
      ascii ",\"last_disconnect_reason\":" = 44 :: (quote (ascii "last_disconnect_reason") ++ [58]) ∧
      ascii ",\"notifies_in\":" = 44 :: (quote (ascii "notifies_in") ++ [58]) ∧
      ascii ",\"notifies_out\":" = 44 :: (quote (ascii "notifies_out") ++ [58]) ∧
      ascii ",\"writes_drained\":" = 44 :: (quote (ascii "writes_drained") ++ [58]) ∧
      ascii ",\"writes_dropped\":" = 44 :: (quote (ascii "writes_dropped") ++ [58]) ∧
      ascii ",\"services\":" = 44 :: (quote (ascii "services") ++ [58]) ∧
      ascii ",\"characteristics\":" = 44 :: (quote (ascii "characteristics") ++ [58]) ∧
      ascii ",\"connected_centrals\":" = 44 :: (quote (ascii "connected_centrals") ++ [58]) ∧
      ascii ",\"advertising\":" = 44 :: (quote (ascii "advertising") ++ [58]) ∧
      ascii "\x7d" = [125] := by decide
  refine ⟨_, _, rfl, ?_, rfl⟩
  simp only [backText, words, Json.more_cons, Json.more_nil, Json.memberText_bool, Json.memberText_nat,
    Json.memberText_str, (plain_stateName us.state).quote]
  simp

/-- Behind the suffix there is a quote, a comma and another quote. -/
theorem behind_suffix (passkey : Option UInt32) (us : Status) (ms : Stats) :
    ∃ more, ascii "\"," ++ (passkeyText passkey ++ backText us ms) = 34 :: 44 :: 34 :: more := by
  have word : ascii "\"," = [34, 44] := rfl
  cases passkey with
  | none =>
      obtain ⟨m, after, -, text, quote⟩ := backText_eq us ms
      obtain ⟨tail, first⟩ := List.head?_eq_some_iff.mp quote
      rw [word, text, first]
      exact ⟨_, rfl⟩
  | some passkey => exact ⟨_, rfl⟩

theorem decimal_cons (n : Nat) : ∃ d rest, decimal n = d :: rest ∧ isDigit d = true := by
  cases text : decimal n with
  | nil => exact absurd text (Json.decimal_ne_nil n)
  | cons d rest => exact ⟨d, rest, rfl, Json.decimal_isDigit n d (text ▸ List.mem_cons_self)⟩

/-- A number that is not long enough has zeros in front. -/
theorem padded_short {n : Nat} (short : n < 100000) :
    ∃ d rest, padded n = 48 :: d :: rest ∧ isDigit d = true ∧ rest.length = 4 := by
  have length : (decimal n).length ≤ 5 := Json.length_decimal_le (by decide) short
  obtain ⟨d, rest, number, digit⟩ := decimal_cons n
  obtain ⟨zeros, more⟩ : ∃ zeros, 6 - (decimal n).length = zeros + 1 :=
    Nat.exists_eq_succ_of_ne_zero (by omega)
  rw [number, List.length_cons] at more length
  rw [padded, number, List.length_cons, more, List.replicate_succ, List.cons_append]
  cases zeros with
  | zero => exact ⟨d, rest, rfl, digit, by omega⟩
  | succ zeros =>
      refine ⟨48, List.replicate zeros 48 ++ d :: rest, rfl, rfl, ?_⟩
      simp only [List.length_append, List.length_replicate, List.length_cons]
      omega

theorem padded_long {n : Nat} (long : 100000 ≤ n) : padded n = decimal n := by
  have six : 5 < (decimal n).length := Json.lt_length_decimal (k := 5) long
  rw [padded, Nat.sub_eq_zero_of_le six]
  rfl

theorem length_frontText_le (t : Target) : (frontText t).length ≤ 72 := by
  have words : (ascii "\x7b\"enabled\":").length = 11 ∧ (ascii ",\"addr\":\"").length = 9 ∧
      (ascii "\",\"type\":").length = 9 ∧ (ascii ",\"name_suffix\":\"").length = 16 := by decide
  have enabled := Json.length_boolText_le t.enabled
  have mac : (fmtMac t.address).length = 17 := rfl
  have type : (decimal t.addressType.toNat).length ≤ 3 :=
    Json.length_decimal_le (by decide) (Nat.lt_trans t.addressType.toNat_lt (by decide))
  simp only [frontText, List.length_append, words, mac]
  omega

/-- **The text of the object**, if nothing in it is wrong. -/
theorem cloneText_eq (plain : Plain t.nameSuffix.bytes) (long : ∀ p ∈ passkey, 100000 ≤ p.toNat) :
    cloneText t passkey us ms = (cloneJson t passkey us ms).render := by
  obtain ⟨m, after, members, text, -⟩ := backText_eq us ms
  have word : ascii "\"," = [34, 44] := rfl
  rw [cloneText, frontText_append, cloneJson, render_opened, Json.memberText_str, plain.quote, text, members,
    word]
  cases passkey with
  | none => simp [passkeyText, Json.more_cons]
  | some passkey =>
      have key : ascii "\"passkey\":" = quote (ascii "passkey") ++ [58] := by decide
      have comma : ascii "," = [44] := rfl
      simp [passkeyText, Json.more_cons, padded_long (long passkey rfl), key, comma, Json.memberText_nat]

/-- The first bytes of the text are sent, whatever is behind them. -/
theorem take_front {front rest : List UInt8} {n : Nat} (short : front.length ≤ n) :
    (front ++ rest).take n = front ++ rest.take (n - front.length) := by
  rw [List.take_append, List.take_of_length_le short]

/-- The suffix is read back only if it needs no escapes. -/
theorem plain_of_body (value : Json.parse (cloneGet t passkey us ms) = some (cloneJson t passkey us ms)) :
    Plain t.nameSuffix.bytes := by
  obtain ⟨more, behind⟩ := behind_suffix passkey us ms
  have front := length_frontText_le t
  have short := t.nameSuffix.short
  have split : cloneText t passkey us ms =
      (frontText t ++ (t.nameSuffix.bytes ++ [34, 44, 34])) ++ more := by
    rw [cloneText, behind]
    simp
  rw [cloneGet, buildCloneJson, taken_eq, split, take_front, List.append_assoc, frontText_append,
    List.append_assoc] at value
  · exact plain_of_parse value
  · simp only [List.length_append, List.length_cons, List.length_nil]
    omega

/-- A passkey with a leading zero. -/
theorem unread_of_short (plain : Plain t.nameSuffix.bytes) {p : UInt32} (short : p.toNat < 100000) :
    Json.parse (cloneGet t (some p) us ms) = none := by
  obtain ⟨d, rest, number, digit, four⟩ := padded_short short
  have front' := length_frontText_le t
  have suffix := t.nameSuffix.short
  have word : ascii "\"," = [34, 44] := rfl
  have key : ascii "\"passkey\":" = quote (ascii "passkey") ++ [58] := by decide
  have name : Json.memberText (ascii "name_suffix", .str t.nameSuffix.bytes) =
      quote (ascii "name_suffix") ++ 58 :: 34 :: (t.nameSuffix.bytes ++ [34]) := by
    rw [Json.memberText_str, plain.quote]
  have opens : frontText t ++ (t.nameSuffix.bytes ++ [34, 44]) =
      opened (front t ++ [(ascii "name_suffix", .str t.nameSuffix.bytes)]) := by
    rw [frontText_append, Json.opened_append, List.flatMap_singleton, name]
    simp
  have split : cloneText t (some p) us ms =
      (opened (front t ++ [(ascii "name_suffix", .str t.nameSuffix.bytes)]) ++
        (quote (ascii "passkey") ++ [58, 48, d])) ++ (rest ++ (ascii "," ++ backText us ms)) := by
    rw [← opens, cloneText, passkeyText, number, word, key]
    simp
  rw [cloneGet, buildCloneJson, taken_eq, split, take_front, List.append_assoc, List.append_assoc]
  · exact parse_unreadable fun fuel => read_leading_zero digit fuel _
  · have length : (quote (ascii "passkey") ++ [58, 48, d]).length = 12 := rfl
    rw [← opens, List.length_append, List.length_append, List.length_append, length]
    simp only [List.length_cons, List.length_nil]
    omega

end Text

/-- **What GET /clone sends** is the object with the target, the passkey and the counters exactly if
the suffix needs no escapes, the passkey has no leading zeros, and the text fits with its
terminator; and the address is read back from the object. -/
theorem clone_body_iff (t : Target) (passkey : Option UInt32) (us : Status) (ms : Stats) :
    (Json.parse (cloneGet t passkey us ms) = some (cloneJson t passkey us ms) ↔
      Plain t.nameSuffix.bytes ∧ (∀ p ∈ passkey, 100000 ≤ p.toNat) ∧
        (cloneText t passkey us ms).length < 384) ∧
    (t.address.toNat < 2 ^ 48 → parseMac (fmtMac t.address) = some t.address) := by
  refine ⟨⟨fun value => ?_, fun ⟨plain, long, fits⟩ => ?_⟩, parseMac_fmtMac⟩
  · have plain := plain_of_body value
    have long : ∀ p ∈ passkey, 100000 ≤ p.toNat := by
      rintro p ⟨⟩
      by_contra short
      rw [unread_of_short plain (Nat.lt_of_not_le short)] at value
      cases value
    refine ⟨plain, long, ?_⟩
    rw [cloneText_eq plain long]
    rw [cloneGet, buildCloneJson, cloneText_eq plain long] at value
    exact (parse_taken _ _).mp value
  · rw [cloneText_eq plain long] at fits
    rw [cloneGet, buildCloneJson, cloneText_eq plain long]
    exact (parse_taken _ _).mpr fits

/-- POST /clone?passkey=1 on a new device, and GET /clone: a number with leading zeros. -/
theorem clone_body_zeros :
    Json.parse (cloneGet Config.initial.snapshot (some 1)
      { state := .disabled, mtu := 0, reconnects := 0, lastDisconnectReason := 0, notifiesSeen := 0,
        writesDrained := 0, writesDropped := 0 }
      { notifiesOut := 0, services := 0, characteristics := 0, connectedCentrals := 0,
        advertising := false }) = none := by
  decide +kernel

end NimbleProxy.Clone.StatusJson
