/-
# Clone.MacText -- an address as a text

`parse_mac` and `fmt_mac` of `clone.cpp`, and the addresses of `build_devices_json`.
`parse_mac` skips `:` and `-` wherever they stand and counts the digits; its accumulator
wraps only on texts that the count refuses (`parseMacFrom_eq`). The device list prints in
upper case what `fmt_mac` prints in lower case (`upper_fmtMac`), and the parser does not
tell the cases apart. So the address in a row of the list is the one that a POST /clone with
it stores, and that GET /clone sends from then on.
-/
import Mathlib.Data.FinEnum
import Mathlib.Data.Nat.Digits.Defs
import NimbleProxy.Api.DevicesJson
import NimbleProxy.Clone.StatusJson

namespace NimbleProxy.Clone.MacText

open NimbleProxy.Theory KeyValue BoundedPrint
open NimbleProxy.Theory.CString (ascii)
open NimbleProxy.Theory.Json (hexValue hexByte hexDigit upperDigit boolText decimal)
open NimbleProxy.Clone.Config
open NimbleProxy.Clone.StatusJson

set_option autoImplicit false

/-- `:` and `-`. -/
def isSeparator (c : UInt8) : Bool := c = 58 || c = 45

/-- A text without its separators. -/
def digitsOf (s : List UInt8) : List UInt8 := s.filter fun c => !isSeparator c

/-- Twelve hexadecimal digits and separators. -/
def IsMac (s : List UInt8) : Prop :=
  (digitsOf s).length = 12 ∧ ∀ c ∈ digitsOf s, (hexValue c).isSome

/-- The number that hexadecimal digits denote. -/
def denoted (digits : List UInt8) : Nat :=
  Nat.ofDigits 16 (digits.reverse.map fun c => (hexValue c).getD 0)

/-! ## What is accepted -/

section Accepted

variable {acc : UInt64} {n : Nat} {s digits : List UInt8} {c : UInt8}

/-- The accumulator behind some digits. -/
def accumulate (acc : UInt64) (digits : List UInt8) : UInt64 :=
  digits.foldl (fun acc c => (acc <<< 4) ||| UInt64.ofNat ((hexValue c).getD 0)) acc

theorem digitsOf_separator (separator : isSeparator c = true) : digitsOf (c :: s) = digitsOf s := by
  rw [digitsOf, List.filter_cons_of_neg (by simp [separator])]
  rfl

theorem digitsOf_digit (other : isSeparator c = false) : digitsOf (c :: s) = c :: digitsOf s := by
  rw [digitsOf, List.filter_cons_of_pos (by simp [other])]
  rfl

/-- The loop, by the digits of the text. -/
theorem parseMacFrom_eq (acc : UInt64) (n : Nat) (s : List UInt8) :
    parseMacFrom acc n s =
      if n + (digitsOf s).length = 12 ∧ ∀ c ∈ digitsOf s, (hexValue c).isSome then
        some (accumulate acc (digitsOf s))
      else none := by
  induction s generalizing acc n with
  | nil =>
      show (if n = 12 then some acc else none) = _
      simp [digitsOf, accumulate]
  | cons c rest ih =>
      rw [parseMacFrom]
      cases kind : isSeparator c with
      | true =>
          have separator : c = 58 ∨ c = 45 := by simpa [isSeparator] using kind
          rw [if_pos separator, ih, digitsOf_separator kind]
      | false =>
          have other : ¬ (c = 58 ∨ c = 45) := by simpa [isSeparator] using kind
          rw [if_neg other, digitsOf_digit kind]
          cases value : hexValue c with
          | none =>
              rw [if_neg]
              rintro ⟨-, digits⟩
              have digit := digits c List.mem_cons_self
              rw [value] at digit
              exact absurd digit Bool.false_ne_true
          | some v =>
              have count : n + 1 + (digitsOf rest).length = n + (c :: digitsOf rest).length := by
                rw [List.length_cons]
                omega
              have all : (∀ d ∈ c :: digitsOf rest, (hexValue d).isSome) ↔
                  ∀ d ∈ digitsOf rest, (hexValue d).isSome := by
                rw [List.forall_mem_cons, value]
                exact and_iff_right rfl
              have here : accumulate acc (c :: digitsOf rest) =
                  accumulate ((acc <<< 4) ||| UInt64.ofNat v) (digitsOf rest) := by
                rw [accumulate, List.foldl_cons, value]
                rfl
              show parseMacFrom ((acc <<< 4) ||| UInt64.ofNat v) (n + 1) rest = _
              simp only [ih, count, all, here]

theorem hexValue_lt : ∀ v ∈ hexValue c, v < 16 := by
  intro v value
  simp only [hexValue, UInt8.le_iff_toNat_le, UInt8.reduceToNat] at value
  split at value
  · cases value
    omega
  split at value
  · cases value
    omega
  split at value
  · cases value
    omega
  · cases value

theorem denoted_cons (c : UInt8) (digits : List UInt8) :
    denoted (c :: digits) = 16 ^ digits.length * (hexValue c).getD 0 + denoted digits := by
  rw [denoted, List.reverse_cons, List.map_append, Nat.ofDigits_append, List.length_map,
    List.length_reverse, List.map_singleton, Nat.ofDigits_singleton, Nat.add_comm]
  rfl

/-- Up to sixteen digits the accumulator does not wrap. -/
theorem toNat_accumulate (k : Nat) (room : digits.length + k ≤ 16) (below : acc.toNat < 16 ^ k) :
    (accumulate acc digits).toNat = 16 ^ digits.length * acc.toNat + denoted digits := by
  induction digits generalizing acc k with
  | nil => simp [accumulate, denoted]
  | cons c rest ih =>
      rw [List.length_cons] at room
      have small : (hexValue c).getD 0 < 16 := by
        cases value : hexValue c with
        | none => decide
        | some v => exact hexValue_lt v value
      have words : 16 ^ k ≤ 16 ^ 15 := Nat.pow_le_pow_right (by decide) (by omega)
      have digit : ((acc <<< 4) ||| UInt64.ofNat ((hexValue c).getD 0)).toNat =
          16 * acc.toNat + (hexValue c).getD 0 :=
        toNat_digit small (by omega)
      have below' : ((acc <<< 4) ||| UInt64.ofNat ((hexValue c).getD 0)).toNat < 16 ^ (k + 1) := by
        rw [digit, Nat.pow_succ]
        omega
      have later := ih (k + 1) (by omega) below'
      rw [digit] at later
      show (accumulate _ rest).toNat = _
      rw [later, denoted_cons, List.length_cons, Nat.pow_succ]
      ring

theorem parseMac_isSome_iff (s : List UInt8) : (parseMac s).isSome ↔ IsMac s := by
  rw [parseMac, parseMacFrom_eq, Nat.zero_add, Option.isSome_ite]
  rfl

theorem toNat_parseMac {v : UInt64} (parsed : parseMac s = some v) : v.toNat = denoted (digitsOf s) := by
  have mac : IsMac s := (parseMac_isSome_iff s).mp (by rw [parsed]; rfl)
  rw [parseMac, parseMacFrom_eq, if_pos ⟨(Nat.zero_add _).trans mac.1, mac.2⟩] at parsed
  have exact : (accumulate 0 (digitsOf s)).toNat =
      16 ^ (digitsOf s).length * (0 : UInt64).toNat + denoted (digitsOf s) :=
    toNat_accumulate 0 (by rw [mac.1]; decide) (by decide)
  rw [← Option.some.inj parsed, exact]
  exact Nat.zero_add _

end Accepted

/-! ## Upper case -/

/-- `toUpperCase` of a byte. -/
def upper (c : UInt8) : UInt8 := if 97 ≤ c ∧ c ≤ 122 then c - 32 else c

theorem upper_facts (c : UInt8) :
    hexValue (upper c) = hexValue c ∧ isSeparator (upper c) = isSeparator c := by
  have all : ∀ n < 256, hexValue (upper (UInt8.ofNat n)) = hexValue (UInt8.ofNat n) ∧
      isSeparator (upper (UInt8.ofNat n)) = isSeparator (UInt8.ofNat n) := by decide +kernel
  rw [← UInt8.ofNat_toNat (x := c)]
  exact all c.toNat c.toNat_lt

theorem digitsOf_upper (s : List UInt8) : digitsOf (s.map upper) = (digitsOf s).map upper := by
  rw [digitsOf, List.filter_map]
  congr 1
  apply List.filter_congr
  intro c _
  exact congrArg not (upper_facts c).2

/-- **The parser does not tell the cases apart.** -/
theorem parseMac_upper (s : List UInt8) : parseMac (s.map upper) = parseMac s := by
  have values (digits : List UInt8) (acc : UInt64) :
      accumulate acc (digits.map upper) = accumulate acc digits := by
    rw [accumulate, List.foldl_map]
    simp only [(upper_facts _).1]
    rfl
  have digits : (∀ c ∈ (digitsOf s).map upper, (hexValue c).isSome) ↔
      ∀ c ∈ digitsOf s, (hexValue c).isSome := by
    rw [List.forall_mem_map]
    simp only [(upper_facts _).1]
  rw [parseMac, parseMac, parseMacFrom_eq, parseMacFrom_eq, digitsOf_upper, List.length_map, values]
  simp only [digits]

theorem upper_hexDigit : ∀ v < 16, upper (hexDigit v) = upperDigit v := by decide

theorem upper_byte (addr : UInt64) (k : Nat) (shift : UInt64)
    (same : shift = UInt64.ofNat ((5 - k) * 8)) :
    (hex02 (addrByte addr shift)).map upper =
      Api.DevicesJson.hex02 (Api.DevicesJson.addrByte addr k) := by
  have byte : (addrByte addr shift).toNat < 256 := by
    rw [addrByte, UInt64.toNat_and]
    exact Nat.lt_of_le_of_lt Nat.and_le_right (by decide)
  have value : (Api.DevicesJson.addrByte addr k).toNat = (addrByte addr shift).toNat := by
    rw [Api.DevicesJson.addrByte, ← same, UInt64.toNat_toUInt8]
    exact Nat.mod_eq_of_lt byte
  rw [hex02, Api.DevicesJson.hex02, hexByte, hexByte, List.map_cons, List.map_singleton, value,
    upper_hexDigit _ (by omega), upper_hexDigit _ (by omega)]

/-- What the device list prints. -/
theorem upper_fmtMac (addr : UInt64) : (fmtMac addr).map upper = Api.DevicesJson.addrText addr := by
  simp only [fmtMac, Api.DevicesJson.addrText, List.map_append, List.map_cons,
    upper_byte addr 0 40 rfl, upper_byte addr 1 32 rfl, upper_byte addr 2 24 rfl,
    upper_byte addr 3 16 rfl, upper_byte addr 4 8 rfl, upper_byte addr 5 0 rfl]
  rfl

theorem parseMac_addrText {addr : UInt64} (mac : addr.toNat < 2 ^ 48) :
    parseMac (Api.DevicesJson.addrText addr) = some addr := by
  rw [← upper_fmtMac, parseMac_upper]
  exact parseMac_fmtMac mac

/-! ## Stored, and reported -/

section Stored

variable {smp reboot : Bool} {d : Device} {query : Query} {passkeyOutcome targetOutcome : Outcome String}
  {value : Value} {addr : UInt64} {next : Target} {pin : Option UInt32}

theorem readTarget_address {prev : Target} (asked : query "addr" = some value)
    (parsed : parseMac value.val = some addr) (accepted : readTarget prev query = .ok next) :
    next.address = addr := by
  unfold readTarget at accepted
  simp only [asked, parsed] at accepted
  cases type : query "type" with
  | none =>
      rw [type] at accepted
      cases accepted
      rfl
  | some text =>
      rw [type] at accepted
      dsimp only at accepted
      split at accepted
      · cases accepted
      · cases accepted
        rfl

theorem readRequest_target {prev : Target} (accepted : readRequest smp prev query = .ok (next, pin)) :
    readTarget prev query = .ok next := by
  unfold readRequest at accepted
  cases target : readTarget prev query with
  | error text =>
      rw [target] at accepted
      cases accepted
  | ok next' =>
      rw [target] at accepted
      cases passkey : readPasskey smp query with
      | error text =>
          rw [passkey] at accepted
          cases accepted
      | ok pin' =>
          rw [passkey] at accepted
          cases accepted
          rfl

/-- A target that is in use and stored. -/
def Stored (d : Device) (addr : UInt64) : Prop :=
  d.snapshot.address = addr ∧ d.nvs "addr" = some (.u64 addr)

theorem storeTarget_stored {changed : Bool}
    (done : (storeTarget d next changed targetOutcome).2 = .ok reboot) :
    Stored (storeTarget d next changed targetOutcome).1 next.address := by
  cases succeeds : targetOutcome.succeeds next.writes with
  | false =>
      simp only [storeTarget, Config.set, Store.session, succeeds] at done
      cases done
  | true =>
      have written : (storeTarget d next changed targetOutcome).1 =
          { d with nvs := d.nvs.putAll next.writes, snapshot := next } := by
        simp only [storeTarget, Config.set, Store.session, succeeds, lasting_of_succeeds succeeds]
      rw [written]
      refine ⟨rfl, ?_⟩
      exact putAll_of_mem d.nvs (functional_of_nodup (nodup_writes next)) List.mem_cons_self

/-- **A request with an address that is not refused.** -/
theorem handleCloneSet_stored (asked : query "addr" = some value)
    (parsed : parseMac value.val = some addr)
    (done : (handleCloneSet smp d (some query) passkeyOutcome targetOutcome).2 = .ok reboot) :
    Stored (handleCloneSet smp d (some query) passkeyOutcome targetOutcome).1 addr := by
  simp only [handleCloneSet] at done ⊢
  cases request : readRequest smp d.snapshot query with
  | error text =>
      rw [request] at done
      cases done
  | ok accepted =>
      obtain ⟨next, pin⟩ := accepted
      rw [request] at done
      rw [← readTarget_address asked parsed (readRequest_target request)]
      cases pin with
      | none => exact storeTarget_stored done
      | some pin =>
          dsimp only at done ⊢
          rcases passkey : setPasskey d pin passkeyOutcome with ⟨d', _ | text⟩
          · rw [passkey] at done
            exact storeTarget_stored done
          · rw [passkey] at done
            cases done

end Stored

/-- GET /clone sends the address in front of everything that may be too long. -/
theorem cloneGet_address (t : Target) (passkey : Option UInt32) (us : Status) (ms : Stats) :
    ∃ rest, cloneGet t passkey us ms =
      ascii "\x7b\"enabled\":" ++ (boolText t.enabled ++ (ascii ",\"addr\":\"" ++
        (fmtMac t.address ++ rest))) := by
  have cut (front rest : List UInt8) (short : front.length ≤ 383) :
      ∃ rest', (front ++ rest).take 383 = front ++ rest' :=
    ⟨rest.take (383 - front.length), by rw [List.take_append, List.take_of_length_le short]⟩
  have mac : (fmtMac t.address).length = 17 := rfl
  have short : (ascii "\x7b\"enabled\":" ++ (boolText t.enabled ++ (ascii ",\"addr\":\"" ++
      fmtMac t.address))).length ≤ 383 := by
    cases t.enabled with
    | true => simp only [List.length_append, mac]; decide
    | false => simp only [List.length_append, mac]; decide
  obtain ⟨rest', taken_⟩ := cut _ (ascii "\",\"type\":" ++ (decimal t.addressType.toNat ++
    ascii ",\"name_suffix\":\"") ++ (t.nameSuffix.bytes ++ (ascii "\"," ++
      (passkeyText passkey ++ backText us ms)))) short
  refine ⟨rest', ?_⟩
  rw [cloneGet, buildCloneJson, taken_eq, cloneText, frontText]
  simpa only [List.append_assoc] using taken_

/-- **Addresses as texts.** What `parse_mac` accepts and yields, that it reads back both printed
forms, and that the address of a row of the device list is the one that is stored and sent. -/
theorem mac_text (s : List UInt8) :
    ((parseMac s).isSome ↔ IsMac s) ∧ (∀ v ∈ parseMac s, v.toNat = denoted (digitsOf s)) ∧
      ∀ addr : UInt64, addr.toNat < 2 ^ 48 →
        parseMac (fmtMac addr) = some addr ∧ parseMac (Api.DevicesJson.addrText addr) = some addr ∧
          ∀ (smp reboot : Bool) (d : Device) (query : Query) (value : Value)
            (passkeyOutcome targetOutcome : Outcome String),
            query "addr" = some value → value.val = Api.DevicesJson.addrText addr →
            (handleCloneSet smp d (some query) passkeyOutcome targetOutcome).2 = .ok reboot →
            Stored (handleCloneSet smp d (some query) passkeyOutcome targetOutcome).1 addr ∧
              ∀ passkey us ms, ∃ enabled rest,
                cloneGet (handleCloneSet smp d (some query) passkeyOutcome targetOutcome).1.snapshot
                    passkey us ms =
                  ascii "\x7b\"enabled\":" ++ (boolText enabled ++ (ascii ",\"addr\":\"" ++
                    (fmtMac addr ++ rest))) := by
  refine ⟨parseMac_isSome_iff s, fun v parsed => toNat_parseMac parsed, fun addr mac =>
    ⟨parseMac_fmtMac mac, parseMac_addrText mac, ?_⟩⟩
  intro smp reboot d query value passkeyOutcome targetOutcome asked text done
  have parsed : parseMac value.val = some addr := by
    rw [text]
    exact parseMac_addrText mac
  have stored := handleCloneSet_stored asked parsed done
  refine ⟨stored, fun passkey us ms => ?_⟩
  obtain ⟨rest, sent⟩ := cloneGet_address
    (handleCloneSet smp d (some query) passkeyOutcome targetOutcome).1.snapshot passkey us ms
  rw [stored.1] at sent
  exact ⟨_, rest, sent⟩

/-- A click on the row of AA:BB:CC:DD:EE:0F. -/
theorem mac_text_clicked :
    parseMac (ascii "aaBB-cc:DDEE0f") = some 0xAABBCCDDEE0F ∧
      Stored (handleCloneSet true initial
        (some fun key => if key = "addr" then some ⟨ascii "AA:BB:CC:DD:EE:0F", by decide⟩ else none)
        {} {}).1 0xAABBCCDDEE0F := by
  have laws := mac_text (ascii "aaBB-cc:DDEE0f")
  have digits : ((digitsOf (ascii "aaBB-cc:DDEE0f")).all fun c => (hexValue c).isSome) = true := by decide
  have twelve : IsMac (ascii "aaBB-cc:DDEE0f") := ⟨by decide, List.all_eq_true.mp digits⟩
  obtain ⟨v, read⟩ := Option.isSome_iff_exists.mp (laws.1.mpr twelve)
  have value : v = 0xAABBCCDDEE0F :=
    UInt64.toNat_inj.mp ((laws.2.1 v read).trans (by decide))
  rw [read, value]
  refine ⟨rfl, ?_⟩
  exact ((laws.2.2 0xAABBCCDDEE0F (by decide)).2.2 true false initial _ _ {} {} rfl rfl rfl).1

end NimbleProxy.Clone.MacText
