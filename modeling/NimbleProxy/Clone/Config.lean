/-
# Clone.Config -- the target of the clone and the passkey, in RAM and in NVS

`clone_config.cpp`, `handle_clone_set` of `clone.cpp`, and `set_passkey` of `stats.cpp`. The
target is one object in RAM and four entries of NVS, the passkey a word and an entry of its
own. A request is checked, except for the storage, before anything is written: the passkey
first, then the target, each in a session that stops where NVS refuses. RAM follows when its
session has succeeded.

So a refusal by NVS leaves what was written before it. `atomic_iff` says for which requests
and which refusals that makes no difference.

A query is what `httpd_query_key_value` answers for a key, with the 32 bytes of `buf`; a
value that does not fit is not answered. The keys of the two namespaces have different
names, and there is one store for both.
-/
import NimbleProxy.Api.Settings
import NimbleProxy.Clone.Upstream
import NimbleProxy.Theory.CString
import NimbleProxy.Theory.PrintedJson
import NimbleProxy.Theory.StoreSession

namespace NimbleProxy.Clone.Config

open NimbleProxy.Theory KeyValue CString
open NimbleProxy.Theory.Json (hexByte hexDigit hexValue)

set_option autoImplicit false

/-! ## The target -/

/-- What `name_suffix` holds up to its terminator. -/
structure Suffix where
  bytes : List UInt8
  short : bytes.length ≤ 15
  noNul : 0 ∉ bytes

/-- `config::Target`. -/
structure Target extends Upstream.Target where
  nameSuffix : Suffix

/-- `strncpy` of a value into `name_suffix`. -/
def Suffix.copy (value : List UInt8) (noNul : 0 ∉ value) : Suffix where
  bytes := value.take 15
  short := List.length_take_le 15 value
  noNul := fun mem => noNul (List.mem_of_mem_take mem)

inductive NvsValue
  | u8 (value : UInt8)
  | u32 (value : UInt32)
  | u64 (value : UInt64)
  | str (bytes : List UInt8)
  deriving DecidableEq

abbrev Nvs := Store String NvsValue

/-- The calls of `config::set`, in their order. -/
def Target.writes (t : Target) : List (String × NvsValue) :=
  [("addr", .u64 t.address), ("type", .u8 t.addressType), ("enabled", .u8 (if t.enabled then 1 else 0)),
    ("name_suffix", .str t.nameSuffix.bytes)]

/-- The call of `nvs_write_passkey`. -/
def passkeyWrites (pin : UInt32) : List (String × NvsValue) := [("ble_passkey", .u32 pin)]

/-! ## Addresses -/

/-- The loop of `parse_mac`, with `acc` and `hex_seen`. -/
def parseMacFrom (acc : UInt64) (hexSeen : Nat) : List UInt8 → Option UInt64
  | [] => if hexSeen = 12 then some acc else none
  | c :: rest =>
      if c = 58 ∨ c = 45 then parseMacFrom acc hexSeen rest
      else
        match hexValue c with
        | none => none
        | some v => parseMacFrom ((acc <<< 4) ||| UInt64.ofNat v) (hexSeen + 1) rest

def parseMac (s : List UInt8) : Option UInt64 := parseMacFrom 0 0 s

/-- `%02x`. -/
def hex02 (c : UInt64) : List UInt8 := hexByte hexDigit c.toNat

/-- `(addr >> shift) & 0xff`. -/
def addrByte (addr : UInt64) (shift : UInt64) : UInt64 := (addr >>> shift) &&& 0xff

def fmtMac (addr : UInt64) : List UInt8 :=
  hex02 (addrByte addr 40) ++ 58 :: (hex02 (addrByte addr 32) ++ 58 :: (hex02 (addrByte addr 24) ++
    58 :: (hex02 (addrByte addr 16) ++ 58 :: (hex02 (addrByte addr 8) ++
      58 :: hex02 (addrByte addr 0)))))

/-! ## Requests -/

/-- A value of a query has no NUL. -/
abbrev Value := { bytes : List UInt8 // 0 ∉ bytes }

abbrev Query := String → Option Value

/-- `strtol` with base 10. What is beyond a `long` is out of every range that is asked for. -/
def strtol (value : Value) : Int :=
  Api.Settings.atoi (String.ofList (value.val.map fun c => Char.ofNat c.toNat))

/-- `addr`, `type`, `enabled` and `name_suffix` of a query, on top of the target in use. -/
def readTarget (prev : Target) (query : Query) : Except String Target := do
  let address ←
    match query "addr" with
    | none => .ok prev.address
    | some value =>
        match parseMac value.val with
        | none => .error "addr must be AA:BB:CC:DD:EE:FF"
        | some parsed => .ok parsed
  let addressType ←
    match query "type" with
    | none => .ok prev.addressType
    | some value =>
        let v := strtol value
        if v < 0 ∨ 3 < v then .error "type must be 0..3" else .ok (UInt8.ofNat v.toNat)
  let enabled :=
    match query "enabled" with
    | none => prev.enabled
    | some value => value.val.head? = some 49 ∨ value.val.head? = some 116 ∨ value.val.head? = some 84
  let nameSuffix :=
    match query "name_suffix" with
    | none => prev.nameSuffix
    | some value => .copy value.val value.property
  return { enabled, address, addressType, nameSuffix }

/-- `passkey`, in a build that has it. -/
def readPasskey (smp : Bool) (query : Query) : Except String (Option UInt32) :=
  match if smp then query "passkey" else none with
  | none => .ok none
  | some value =>
      let pin := strtol value
      if pin < 0 ∨ 999999 < pin then .error "passkey must be 0..999999"
      else .ok (some (UInt32.ofNat pin.toNat))

/-- Both, with the checks in their order. -/
def readRequest (smp : Bool) (prev : Target) (query : Query) : Except String (Target × Option UInt32) := do
  let next ← readTarget prev query
  let pin ← readPasskey smp query
  return (next, pin)

/-! ## The handler -/

structure Device where
  /-- `g_snapshot` -/
  snapshot : Target
  /-- `g_passkey` -/
  passkey : UInt32
  nvs : Nvs
  /-- `mirror::stats().services` -/
  services : UInt16

def setPasskey (d : Device) (pin : UInt32) (outcome : Outcome String) : Device × Option String :=
  if 999999 < pin then (d, some "passkey must be 0..999999")
  else
    match d.nvs.session outcome (passkeyWrites pin) with
    | (nvs, false) => ({ d with nvs }, some "nvs write failed")
    | (nvs, true) => ({ d with nvs, passkey := pin }, none)

/-- `config::set`. -/
def set (d : Device) (t : Target) (outcome : Outcome String) : Device × Bool :=
  match d.nvs.session outcome t.writes with
  | (nvs, false) => ({ d with nvs }, false)
  | (nvs, true) => ({ d with nvs, snapshot := t }, true)

/-- The end of `handle_clone_set`. -/
def storeTarget (d : Device) (next : Target) (addrChanged : Bool) (outcome : Outcome String) :
    Device × Except String Bool :=
  match set d next outcome with
  | (d, false) => (d, .error "nvs write failed")
  | (d, true) => (d, .ok (addrChanged && 0 < d.services))

/-- The device, and `reboot_required` or the text of the error. NVS has an outcome for the session
of the passkey and one for that of the target. -/
def handleCloneSet (smp : Bool) (d : Device) (query : Option Query)
    (passkeyOutcome targetOutcome : Outcome String) : Device × Except String Bool :=
  match query with
  | none => (d, .error "missing query")
  | some query =>
      match readRequest smp d.snapshot query with
      | .error text => (d, .error text)
      | .ok (next, pin) =>
          let addrChanged := next.address != d.snapshot.address
          match pin with
          | none => storeTarget d next addrChanged targetOutcome
          | some pin =>
              match setPasskey d pin passkeyOutcome with
              | (d, some text) => (d, .error text)
              | (d, none) => storeTarget d next addrChanged targetOutcome

/-! ## Refusals -/

/-- What a request is to leave if it is answered with an error: the target and the passkey in RAM, and
NVS. -/
structure Unchanged (before after : Device) : Prop where
  snapshot : after.snapshot = before.snapshot
  passkey : after.passkey = before.passkey
  nvs : after.nvs = before.nvs

/-- Every write of a session that stays is of a value that is there already. -/
def AlreadyThere (nvs : Nvs) (outcome : Outcome String) (writes : List (String × NvsValue)) : Prop :=
  ∀ write ∈ outcome.lasting writes, nvs write.1 = some write.2

instance (nvs : Nvs) (outcome : Outcome String) (writes : List (String × NvsValue)) :
    Decidable (AlreadyThere nvs outcome writes) :=
  List.decidableBAll (fun write : String × NvsValue => nvs write.1 = some write.2) _

/-- The target of a request does not arrive in NVS, or all of it does. -/
def TargetHarmless (d : Device) (next : Target) (outcome : Outcome String) : Prop :=
  outcome.succeeds next.writes = true ∨ AlreadyThere d.nvs outcome next.writes

/-- A request that passes the checks loses nothing by a refusal: if the passkey is refused, what stays
of its session was there; if it is not, either the target is not refused, or the passkey was the
one in use and stored, and what stays of the target was there. -/
def Harmless (d : Device) (next : Target) (pin : Option UInt32)
    (passkeyOutcome targetOutcome : Outcome String) : Prop :=
  match pin with
  | none => TargetHarmless d next targetOutcome
  | some pin =>
      if passkeyOutcome.succeeds (passkeyWrites pin) then
        targetOutcome.succeeds next.writes = true ∨
          (d.passkey = pin ∧ d.nvs "ble_passkey" = some (.u32 pin)) ∧
            AlreadyThere d.nvs targetOutcome next.writes
      else AlreadyThere d.nvs passkeyOutcome (passkeyWrites pin)

section Refusals

variable {smp : Bool} {before d : Device} {query : Query} {next : Target} {pin : UInt32}
  {passkeyOutcome targetOutcome outcome : Outcome String} {changed : Bool}

theorem nodup_writes (t : Target) : (t.writes.map Prod.fst).Nodup := by
  simp [Target.writes]

/-- The target is stored, or refused. -/
theorem storeTarget_unchanged_iff :
    (∀ text, (storeTarget d next changed outcome).2 = .error text →
        Unchanged before (storeTarget d next changed outcome).1) ↔
      outcome.succeeds next.writes = true ∨
        d.snapshot = before.snapshot ∧ d.passkey = before.passkey ∧
          (d.nvs.session outcome next.writes).1 = before.nvs := by
  cases succeeds : outcome.succeeds next.writes with
  | true =>
      have stored : (storeTarget d next changed outcome).2 = .ok (changed && 0 < d.services) := by
        simp only [storeTarget, set, Store.session, succeeds]
      rw [stored]
      exact iff_of_true nofun (.inl rfl)
  | false =>
      have refused : storeTarget d next changed outcome =
          ({ d with nvs := (d.nvs.session outcome next.writes).1 }, .error "nvs write failed") := by
        simp only [storeTarget, set, Store.session, succeeds]
      rw [refused]
      simp only [Bool.false_eq_true, false_or]
      refine ⟨fun unchanged => ?_, fun ⟨snapshot, passkey, nvs⟩ _ _ => ⟨snapshot, passkey, nvs⟩⟩
      obtain ⟨snapshot, passkey, nvs⟩ := unchanged _ rfl
      exact ⟨snapshot, passkey, nvs⟩

/-- The passkey is stored, and what follows leaves NVS as it was before. -/
theorem session_put_eq_iff (nvs : Nvs) (pin : UInt32) :
    ((nvs.putAll (passkeyWrites pin)).session outcome next.writes).1 = nvs ↔
      nvs "ble_passkey" = some (.u32 pin) ∧ AlreadyThere nvs outcome next.writes := by
  have own : (nvs.putAll (passkeyWrites pin)) "ble_passkey" = some (.u32 pin) :=
    putAll_of_mem nvs (functional_of_nodup (by simp [passkeyWrites])) (by simp [passkeyWrites])
  have passkey : (nvs.putAll (passkeyWrites pin)) = nvs ↔ nvs "ble_passkey" = some (.u32 pin) := by
    rw [putAll_eq_self_iff (functional_of_nodup (by simp [passkeyWrites]))]
    simp [passkeyWrites]
  constructor
  · intro same
    have there : nvs "ble_passkey" = some (.u32 pin) := by
      rw [← same, session_of_notMem (by simp [Target.writes]), own]
    rw [passkey.mpr there, session_eq_self_iff (nodup_writes next)] at same
    exact ⟨there, same⟩
  · rintro ⟨there, target⟩
    rw [passkey.mpr there, session_eq_self_iff (nodup_writes next)]
    exact target

/-- A passkey that passes the first check passes the second. -/
theorem passkey_le {prev : Target} (accepted : readRequest smp prev query = .ok (next, some pin)) :
    ¬ 999999 < pin := by
  have checked : readPasskey smp query = .ok (some pin) := by
    unfold readRequest at accepted
    cases target : readTarget prev query with
    | error text =>
        rw [target] at accepted
        cases accepted
    | ok next' =>
        cases passkey : readPasskey smp query with
        | error text =>
            rw [target, passkey] at accepted
            cases accepted
        | ok pin' =>
            rw [target, passkey] at accepted
            cases accepted
            rfl
  unfold readPasskey at checked
  split at checked
  · cases checked
  · rename_i value _
    dsimp only at checked
    split at checked
    · cases checked
    · rename_i range
      cases checked
      have exact : (UInt32.ofNat (strtol value).toNat).toNat = (strtol value).toNat :=
        UInt32.toNat_ofNat_of_lt' (by simp only [UInt32.size]; omega)
      rw [UInt32.lt_iff_toNat_lt, exact]
      simp only [UInt32.reduceToNat]
      omega

/-- A request that has a passkey. -/
theorem storePin_unchanged_iff {result : Device × Except String Bool} (small : ¬ 999999 < pin)
    (answer : result = match setPasskey d pin passkeyOutcome with
      | (d, some text) => (d, .error text)
      | (d, none) => storeTarget d next changed targetOutcome) :
    (∀ text, result.2 = .error text → Unchanged d result.1) ↔
      Harmless d next (some pin) passkeyOutcome targetOutcome := by
  cases succeeds : passkeyOutcome.succeeds (passkeyWrites pin) with
  | true =>
      have stored : setPasskey d pin passkeyOutcome =
          ({ d with nvs := d.nvs.putAll (passkeyWrites pin), passkey := pin }, none) := by
        simp only [setPasskey, small, if_false, Store.session, succeeds,
          lasting_of_succeeds succeeds]
      rw [answer, stored]
      apply storeTarget_unchanged_iff.trans
      dsimp only
      rw [session_put_eq_iff]
      simp only [Harmless, succeeds, if_true]
      refine or_congr_right ⟨?_, ?_⟩
      · rintro ⟨-, rfl, there, target⟩
        exact ⟨⟨rfl, there⟩, target⟩
      · rintro ⟨⟨rfl, there⟩, target⟩
        exact ⟨trivial, rfl, there, target⟩
  | false =>
      have refused : setPasskey d pin passkeyOutcome =
          ({ d with nvs := (d.nvs.session passkeyOutcome (passkeyWrites pin)).1 },
            some "nvs write failed") := by
        simp only [setPasskey, small, if_false, Store.session, succeeds]
      have harmless : Harmless d next (some pin) passkeyOutcome targetOutcome ↔
          (d.nvs.session passkeyOutcome (passkeyWrites pin)).1 = d.nvs := by
        rw [session_eq_self_iff (by simp [passkeyWrites])]
        simp [Harmless, succeeds, AlreadyThere]
      rw [answer, refused, harmless]
      exact ⟨fun unchanged => (unchanged _ rfl).nvs, fun same _ _ => ⟨rfl, rfl, same⟩⟩

end Refusals

/-- **When an error leaves everything as it was.** -/
theorem atomic_iff (smp : Bool) (d : Device) (query : Option Query)
    (passkeyOutcome targetOutcome : Outcome String) :
    (∀ text, (handleCloneSet smp d query passkeyOutcome targetOutcome).2 = .error text →
        Unchanged d (handleCloneSet smp d query passkeyOutcome targetOutcome).1) ↔
      ∀ q ∈ query, ∀ next pin, readRequest smp d.snapshot q = .ok (next, pin) →
        Harmless d next pin passkeyOutcome targetOutcome := by
  cases query with
  | none => exact iff_of_true (fun _ _ => ⟨rfl, rfl, rfl⟩) (fun q mem => nomatch mem)
  | some query =>
      simp only [handleCloneSet, Option.mem_some_iff, forall_eq']
      cases request : readRequest smp d.snapshot query with
      | error text => exact iff_of_true (fun _ _ => ⟨rfl, rfl, rfl⟩) (fun _ _ ok => by cases ok)
      | ok accepted =>
          obtain ⟨next, pin⟩ := accepted
          have one : (∀ next' pin', (Except.ok (next, pin) : Except String _) = .ok (next', pin') →
              Harmless d next' pin' passkeyOutcome targetOutcome) ↔
              Harmless d next pin passkeyOutcome targetOutcome := by
            refine ⟨fun all => all next pin rfl, ?_⟩
            rintro harmless _ _ ⟨⟩
            exact harmless
          rw [one]
          cases pin with
          | none =>
              apply storeTarget_unchanged_iff.trans
              rw [session_eq_self_iff (nodup_writes next)]
              simp [Harmless, TargetHarmless, AlreadyThere]
          | some pin => exact storePin_unchanged_iff (passkey_le request) rfl

/-- What `load` gives with nothing in NVS. -/
def initial : Device where
  snapshot :=
    { enabled := false, address := 0, addressType := 0
      nameSuffix := ⟨ascii "_cloned", by decide, by decide⟩ }
  passkey := 123456
  nvs := fun _ => none
  services := 0

/-- POST /clone?passkey=111111. -/
def passkeyQuery : Query := fun key =>
  if key = "passkey" then some ⟨ascii "111111", by decide⟩ else none

/-- The namespace of the target cannot be opened: the answer is an error, and the new passkey is in
use and stored. -/
theorem passkey_left :
    let answered := handleCloneSet true initial (some passkeyQuery) {} { opens := false }
    answered.2 = .error "nvs write failed" ∧ ¬ Unchanged initial answered.1 := by
  refine ⟨by rfl, fun unchanged => ?_⟩
  exact absurd unchanged.passkey (by decide +kernel)

end NimbleProxy.Clone.Config
