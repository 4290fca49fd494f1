/-
# Clone.Mirror -- the local image of the upstream attribute table

`clone_mirror.cpp`: the rows `g_chars` that tie a local characteristic to the
remote one it mirrors, and the functions that fill and clear them (`build_from`,
`finalize_server`, `rebind_upstream`, `disconnect_upstream`).

A `NimBLERemoteCharacteristic *` is a `RemotePtr`: which discovery made the object
and where in the table it stands. A `NimBLECharacteristic *` or `NimBLEService *`
of the local server is a value with an `id` of its own, because
`createCharacteristic` and `createService` make a new object at each call. The
attribute table is the one NimBLE's client object holds; `refused` are the
positions of the services for which `createService` returns null.

`origin` is bookkeeping that no function reads: the handle of the upstream service
for which a local one was created.

Logs, counters, the read-out of the registered handles and the advertising are left out.
-/
import Mathlib.Data.List.Forall2
import NimbleProxy.Backend.GattDiscovery

namespace NimbleProxy.Clone.Mirror

open NimbleProxy.Backend.GattDiscovery (Uuid Abilities RemoteCharacteristic RemoteService)

set_option autoImplicit false

/-! ## Properties of a characteristic -/

def flagBroadcast : UInt16 := 0x0001
def flagRead : UInt16 := 0x0002
def flagWriteNoRsp : UInt16 := 0x0004
def flagWrite : UInt16 := 0x0008
def flagNotify : UInt16 := 0x0010
def flagIndicate : UInt16 := 0x0020
def flagReadEnc : UInt16 := 0x0200
def flagReadAuthen : UInt16 := 0x0400
def flagReadAuthor : UInt16 := 0x0800
def flagWriteEnc : UInt16 := 0x1000
def flagWriteAuthen : UInt16 := 0x2000
def flagWriteAuthor : UInt16 := 0x4000

/-- `sanitize_props`. -/
def sanitizeProps (up : UInt16) : UInt16 :=
  let keep (mask out : UInt16) : UInt16 := if up &&& mask ≠ 0 then out else 0
  keep flagBroadcast flagBroadcast |||
    keep (flagRead ||| flagReadEnc ||| flagReadAuthen ||| flagReadAuthor) flagRead |||
    keep (flagWrite ||| flagWriteEnc ||| flagWriteAuthen ||| flagWriteAuthor) flagWrite |||
    keep flagWriteNoRsp flagWriteNoRsp ||| keep flagNotify flagNotify |||
    keep flagIndicate flagIndicate

/-- `upstream_props_of`. -/
def upstreamPropsOf (can : Abilities) : UInt16 :=
  (if can.broadcast then flagBroadcast else 0) ||| (if can.read then flagRead else 0) |||
  (if can.writeNoResponse then flagWriteNoRsp else 0) ||| (if can.write then flagWrite else 0) |||
  (if can.notify then flagNotify else 0) ||| (if can.indicate then flagIndicate else 0)

/-! ## The attribute table -/

/-- `NimBLEUUID::operator==`. -/
def sameUuid (a b : Uuid) : Bool := a.to128 == b.to128

/-- A `NimBLERemoteCharacteristic *`. -/
structure RemotePtr where
  discovery : Nat
  service : Nat
  characteristic : Nat
  deriving DecidableEq

/-- A characteristic of the table and where it stands. -/
structure Entry where
  service : RemoteService
  serviceAt : Nat
  chr : RemoteCharacteristic
  chrAt : Nat

def Entry.ptr (e : Entry) (discovery : Nat) : RemotePtr := ⟨discovery, e.serviceAt, e.chrAt⟩

/-- The characteristics of one service. -/
def entriesOf (svc : RemoteService) (i : Nat) : List Entry :=
  svc.characteristics.zipIdx.map fun (chr, j) => ⟨svc, i, chr, j⟩

def entries (table : List RemoteService) : List Entry :=
  table.zipIdx.flatMap fun (svc, i) => entriesOf svc i

/-- GAP and GATT, which NimBLE registers itself. -/
def standard : Uuid → Bool
  | .uuid16 value => value == 0x1800 || value == 0x1801
  | _ => false

/-! ## State -/

structure Config where
  /-- `CONFIG_NBP_CLONE_MAX_CHARS` -/
  maxChars : Nat
  /-- `CONFIG_NBP_CLONE_VALUE_CACHE_BYTES` -/
  cacheBytes : Nat
  /-- `CONFIG_NBP_BLE_HTTPD` -/
  bleHttpd : Bool

/-- A `NimBLEService *` of the local server. -/
structure LocalService where
  id : Nat
  uuid : Uuid
  origin : UInt16

/-- A `NimBLECharacteristic *`. -/
structure LocalChar where
  id : Nat
  uuid : Uuid
  properties : UInt16
  service : LocalService

structure MirrorChar where
  upstreamHandle : UInt16
  upstreamProps : UInt16
  localChar : LocalChar
  upstream : Option RemotePtr
  /-- the first `cache_len` bytes of `cache` -/
  cache : List UInt8 := []
  primed : Bool := false

structure State where
  /-- the first `g_char_count` rows of `g_chars` -/
  chars : List MirrorChar := []
  /-- the services `build_from` has added to the local server -/
  services : List LocalService := []
  /-- the number of characteristics `build_from` has created -/
  created : Nat := 0
  /-- `g_server` is not null -/
  server : Bool := false
  /-- `g_built` -/
  built : Bool := false
  /-- `g_service_count` -/
  serviceCount : UInt16 := 0
  /-- `ble_httpd`'s `g_activated` -/
  activated : Bool := false
  /-- bookkeeping: how many rows there were when `NimBLEServer::start` last returned true -/
  registered : Option Nat := none

/-! ## The functions -/

/-- One round of the inner loop of `build_from`. -/
def buildChar (config : Config) (discovery : Nat) (svc : LocalService) (m : State) (e : Entry) :
    State :=
  if config.maxChars ≤ m.chars.length then m
  else
    let upProps := upstreamPropsOf e.chr.can
    { m with
      created := m.created + 1
      chars := m.chars ++
        [{ upstreamHandle := e.chr.handle
           upstreamProps := upProps
           localChar := ⟨m.created, e.chr.uuid, sanitizeProps upProps, svc⟩
           upstream := some (e.ptr discovery) }] }

/-- One round of the outer loop of `build_from`. -/
def buildService (config : Config) (discovery : Nat) (refused : List Nat) (m : State)
    (svc : RemoteService × Nat) : State :=
  if standard svc.1.uuid then m
  else if svc.2 ∈ refused then m
  else
    let localSvc : LocalService := ⟨m.services.length, svc.1.uuid, svc.1.handle⟩
    (entriesOf svc.1 svc.2).foldl (buildChar config discovery localSvc)
      { m with services := m.services ++ [localSvc], serviceCount := m.serviceCount + 1 }

/-- The characteristic to which `rebind_upstream` attaches a row: the first with the UUID of the
row's local characteristic, in a service with the UUID of its local service. -/
def findUpstream (table : List RemoteService) (chr : LocalChar) : Option Entry :=
  table.zipIdx.findSome? fun (svc, i) =>
    if sameUuid svc.uuid chr.service.uuid then
      (entriesOf svc i).find? fun e => sameUuid e.chr.uuid chr.uuid
    else none

def rebindRow (discovery : Nat) (table : List RemoteService) (row : MirrorChar) : MirrorChar :=
  match findUpstream table row.localChar with
  | some e => { row with upstream := some (e.ptr discovery), upstreamHandle := e.chr.handle }
  | none => { row with upstream := none }

/-- `rebind_upstream`. -/
def rebindUpstream (m : State) (discovery : Nat) (table : List RemoteService) : State × Bool :=
  if m.built then
    let chars := m.chars.map (rebindRow discovery table)
    ({ m with chars }, chars.any fun row => row.upstream.isSome)
  else (m, false)

/-- `build_from`. -/
def buildFrom (config : Config) (m : State) (discovery : Nat) (table : List RemoteService)
    (refused : List Nat) : State × Bool :=
  if m.built then rebindUpstream m discovery table
  else (table.zipIdx.foldl (buildService config discovery refused) { m with server := true }, true)

/-- `NimBLEServer::start` is called and answers `started`. -/
def State.start (m : State) (started : Bool) : State :=
  if started then { m with registered := some m.chars.length } else m

/-- `ble_httpd::activate`, after `ble_httpd::start` has created the server. The answer of
`NimBLEServer::start` is logged and gets lost. -/
def activate (m : State) (started : Bool) : State :=
  if m.activated then m else { m with activated := true }.start started

/-- `finalize_server`. -/
def finalizeServer (config : Config) (m : State) (started : Bool) : State × Bool :=
  if !m.server then (m, false)
  else if m.built then (m, true)
  else if config.bleHttpd then ({ activate m started with built := true }, true)
  else if started then ({ m.start started with built := true }, true)
  else (m, false)

/-- `disconnect_upstream`. -/
def disconnectUpstream (m : State) : State :=
  if m.built then
    { m with chars := m.chars.map fun row => { row with upstream := none, primed := false } }
  else m

/-- `finalize_server` leaves rows and services alone, and fails only without `g_built`. -/
theorem finalizeServer_spec (config : Config) (m : State) (started : Bool) :
    (finalizeServer config m started).1 = m ∨
      ∃ activated registered,
        (finalizeServer config m started).1 = { m with activated, registered, built := true } := by
  unfold finalizeServer activate State.start
  repeat' split
  all_goals first | exact .inl rfl | exact .inr ⟨_, _, rfl⟩

/-- Where `finalize_server` says that it has succeeded, the mirror counts as built. -/
theorem built_of_finalizeServer {config : Config} {m : State} {started : Bool}
    (done : (finalizeServer config m started).2 = true) :
    (finalizeServer config m started).1.built = true := by
  unfold finalizeServer at done ⊢
  repeat' split
  all_goals simp_all

/-! ## What build_from adds -/

/-- Whether `build_from` mirrors the service. -/
def mirrors (refused : List Nat) (svc : RemoteService × Nat) : Bool :=
  !standard svc.1.uuid && !decide (svc.2 ∈ refused)

/-- The services `build_from` mirrors. -/
def mirrored (table : List RemoteService) (refused : List Nat) : List (RemoteService × Nat) :=
  table.zipIdx.filter (mirrors refused)

/-- The characteristics of these services. -/
def captured (table : List RemoteService) (refused : List Nat) : List Entry :=
  (mirrored table refused).flatMap fun svc => entriesOf svc.1 svc.2

/-- The row was built from this characteristic and still has its handle. -/
structure Mirrors (row : MirrorChar) (e : Entry) : Prop where
  handle : row.upstreamHandle = e.chr.handle
  uuid : row.localChar.uuid = e.chr.uuid
  serviceUuid : row.localChar.service.uuid = e.service.uuid
  origin : row.localChar.service.origin = e.service.handle

def State.origins (m : State) : List UInt16 := m.services.map LocalService.origin

/-- `m'` has grown from `m` by the characteristics `es`, as far as there is room, and by local
services for the upstream services `handles`. -/
structure Grows (config : Config) (discovery : Nat) (m m' : State) (es : List Entry)
    (handles : List UInt16) : Prop where
  rows : ∃ rows, m'.chars = m.chars ++ rows ∧
    List.Forall₂ (fun row e => Mirrors row e ∧ row.upstream = some (e.ptr discovery)) rows
      (es.take (config.maxChars - m.chars.length))
  origins : m'.origins = m.origins ++ handles
  count : m'.serviceCount = m.serviceCount + UInt16.ofNat handles.length
  built : m'.built = m.built
  server : m.server = true → m'.server = true
  started : m'.activated = m.activated ∧ m'.registered = m.registered

section Grows

variable {config : Config} {discovery : Nat} {m m' m'' : State} {es es' : List Entry}
  {handles handles' : List UInt16}

theorem Grows.refl (m : State) : Grows config discovery m m [] [] where
  rows := ⟨[], by simp⟩
  origins := by simp
  count := by simp
  built := rfl
  server := id
  started := ⟨rfl, rfl⟩

theorem Grows.trans (first : Grows config discovery m m' es handles)
    (second : Grows config discovery m' m'' es' handles') :
    Grows config discovery m m'' (es ++ es') (handles ++ handles') := by
  obtain ⟨rows, chars, built⟩ := first.rows
  obtain ⟨rows', chars', built'⟩ := second.rows
  refine ⟨⟨rows ++ rows', ?_, ?_⟩, ?_, ?_, second.built.trans first.built,
    fun server => second.server (first.server server),
    second.started.1.trans first.started.1, second.started.2.trans first.started.2⟩
  · rw [chars', chars, List.append_assoc]
  · rw [List.take_append]
    -- what the first part has used up is missing from the room of the second
    have used := built.length_eq
    rw [List.length_take] at used
    have room : config.maxChars - m'.chars.length =
        config.maxChars - m.chars.length - es.length := by
      rw [chars, List.length_append, used]
      omega
    rw [room] at built'
    exact List.rel_append built built'
  · rw [second.origins, first.origins, List.append_assoc]
  · rw [second.count, first.count, List.length_append, UInt16.ofNat_add, UInt16.add_assoc]

theorem grows_foldl {α : Type} (step : State → α → State) (part : α → List Entry)
    (service : α → List UInt16) (xs : List α)
    (one : ∀ x ∈ xs, ∀ m, Grows config discovery m (step m x) (part x) (service x)) (m : State) :
    Grows config discovery m (xs.foldl step m) (xs.flatMap part) (xs.flatMap service) := by
  induction xs generalizing m with
  | nil => exact .refl m
  | cons x rest ih =>
      simp only [List.foldl_cons, List.flatMap_cons]
      have head := one x List.mem_cons_self m
      exact head.trans (ih (fun y mem => one y (List.mem_cons_of_mem x mem)) (step m x))

theorem grows_buildChar {svc : LocalService} {e : Entry} (uuid : svc.uuid = e.service.uuid)
    (origin : svc.origin = e.service.handle) (m : State) :
    Grows config discovery m (buildChar config discovery svc m e) [e] [] := by
  unfold buildChar
  split
  · rename_i full
    have noRoom : config.maxChars - m.chars.length = 0 := by omega
    exact ⟨⟨[], by simp [noRoom]⟩, by simp, by simp, rfl, id, rfl, rfl⟩
  · rename_i room
    obtain ⟨k, more⟩ : ∃ k, config.maxChars - m.chars.length = k + 1 :=
      ⟨config.maxChars - m.chars.length - 1, by omega⟩
    refine ⟨⟨_, rfl, ?_⟩, by simp [State.origins], by simp, rfl, id, rfl, rfl⟩
    rw [more, List.take_succ_cons, List.take_nil]
    exact .cons ⟨⟨rfl, rfl, uuid, origin⟩, rfl⟩ .nil

theorem service_of_mem_entriesOf {svc : RemoteService} {i : Nat} {e : Entry}
    (mem : e ∈ entriesOf svc i) : e.service = svc := by
  obtain ⟨pair, -, rfl⟩ := List.mem_map.mp mem
  rfl

theorem grows_buildService (refused : List Nat) (svc : RemoteService × Nat) (m : State) :
    Grows config discovery m (buildService config discovery refused m svc)
      (if mirrors refused svc then entriesOf svc.1 svc.2 else [])
      (if mirrors refused svc then [svc.1.handle] else []) := by
  unfold buildService
  by_cases skip : standard svc.1.uuid = true
  · simpa [mirrors, skip] using Grows.refl m
  by_cases null : svc.2 ∈ refused
  · simpa [mirrors, skip, null] using Grows.refl m
  simp only [mirrors, skip, null, if_false, decide_false, Bool.not_false, Bool.and_true, if_true]
  let localSvc : LocalService := ⟨m.services.length, svc.1.uuid, svc.1.handle⟩
  let m' : State :=
    { m with services := m.services ++ [localSvc], serviceCount := m.serviceCount + 1 }
  have head : Grows config discovery m m' [] [svc.1.handle] :=
    ⟨⟨[], by simp [m']⟩, by simp [m', State.origins, localSvc], by simp [m'], rfl, id, rfl, rfl⟩
  have chars : Grows config discovery m' ((entriesOf svc.1 svc.2).foldl
      (buildChar config discovery localSvc) m') ((entriesOf svc.1 svc.2).flatMap fun e => [e])
      ((entriesOf svc.1 svc.2).flatMap fun _ => []) := by
    refine grows_foldl _ _ _ _ ?_ m'
    intro e mem m
    have svcEq := service_of_mem_entriesOf mem
    exact grows_buildChar (by rw [svcEq]) (by rw [svcEq]) m
  have noService : ((entriesOf svc.1 svc.2).flatMap fun _ => ([] : List UInt16)) = [] :=
    List.flatMap_eq_nil_iff.mpr fun _ _ => rfl
  rw [noService, List.flatMap_singleton'] at chars
  exact head.trans chars

end Grows

/-- **What `build_from` does.** Before the server is registered it adds a local service for each
service it mirrors and, while there is room, a row for each of their characteristics;
it does not look at what an earlier call has added. -/
theorem buildFrom_grows (config : Config) (m : State) (discovery : Nat)
    (table : List RemoteService) (refused : List Nat) (open_ : m.built = false) :
    (buildFrom config m discovery table refused).2 = true ∧
      (buildFrom config m discovery table refused).1.server = true ∧
      Grows config discovery m (buildFrom config m discovery table refused).1
        (captured table refused) ((mirrored table refused).map fun svc => svc.1.handle) := by
  have split : ∀ (xs : List (RemoteService × Nat)),
      xs.flatMap (fun svc => if mirrors refused svc then entriesOf svc.1 svc.2 else []) =
        (xs.filter (mirrors refused)).flatMap (fun svc => entriesOf svc.1 svc.2) ∧
      xs.flatMap (fun svc => if mirrors refused svc then [svc.1.handle] else []) =
        (xs.filter (mirrors refused)).map fun svc => svc.1.handle := by
    intro xs
    induction xs with
    | nil => exact ⟨rfl, rfl⟩
    | cons x rest ih =>
        by_cases yes : mirrors refused x = true
        · simp [yes, ih.1, ih.2]
        · simp [yes, ih.1, ih.2]
  have built : ¬ m.built = true := by simp [open_]
  unfold buildFrom
  rw [if_neg built]
  refine ⟨rfl, ?_⟩
  have grown := grows_foldl (buildService config discovery refused)
    (fun svc => if mirrors refused svc then entriesOf svc.1 svc.2 else [])
    (fun svc => if mirrors refused svc then [svc.1.handle] else []) table.zipIdx
    (fun svc _ m => grows_buildService refused svc m) { m with server := true }
  rw [(split table.zipIdx).1, (split table.zipIdx).2] at grown
  exact ⟨grown.server rfl, grown.rows, grown.origins, grown.count, grown.built,
    fun _ => grown.server rfl, grown.started⟩

/-! ## Bound rows -/

/-- No row has a remote characteristic. -/
def State.Unbound (m : State) : Prop := ∀ row ∈ m.chars, row.upstream = none

instance (m : State) : Decidable m.Unbound := inferInstanceAs (Decidable (∀ _ ∈ _, _))

/-- The table has no characteristic for any of the rows. -/
def RebindsNothing (m : State) (table : List RemoteService) : Prop :=
  if m.built then ∀ row ∈ m.chars, findUpstream table row.localChar = none else m.Unbound

/-- There is nothing that `build_from` could bind. -/
def BuildsNothing (config : Config) (m : State) (table : List RemoteService)
    (refused : List Nat) : Prop :=
  if m.built then RebindsNothing m table
  else m.Unbound ∧ (config.maxChars ≤ m.chars.length ∨ captured table refused = [])

instance (m : State) (table : List RemoteService) : Decidable (RebindsNothing m table) :=
  inferInstanceAs (Decidable (ite _ _ _))

instance (config : Config) (m : State) (table : List RemoteService) (refused : List Nat) :
    Decidable (BuildsNothing config m table refused) :=
  inferInstanceAs (Decidable (ite _ _ _))

/-- `disconnect_upstream` does its work only once the server is registered. -/
theorem unbound_disconnectUpstream {m : State} :
    (disconnectUpstream m).Unbound ↔ m.built = true ∨ m.Unbound := by
  unfold disconnectUpstream
  cases built : m.built with
  | true => simp [State.Unbound]
  | false => simp

theorem unbound_rebindUpstream {m : State} {discovery : Nat} {table : List RemoteService} :
    (rebindUpstream m discovery table).1.Unbound ↔ RebindsNothing m table := by
  unfold rebindUpstream RebindsNothing
  cases built : m.built with
  | false => simp
  | true =>
      have row : ∀ row, (rebindRow discovery table row).upstream = none ↔
          findUpstream table row.localChar = none := by
        intro row
        unfold rebindRow
        split <;> simp_all
      simp [State.Unbound, row]

theorem unbound_buildFrom {config : Config} {m : State} {discovery : Nat}
    {table : List RemoteService} {refused : List Nat} :
    (buildFrom config m discovery table refused).1.Unbound ↔
      BuildsNothing config m table refused := by
  unfold BuildsNothing
  cases built : m.built with
  | true =>
      simp only [buildFrom, built, if_true]
      exact unbound_rebindUpstream
  | false =>
      obtain ⟨rows, chars, bound⟩ := (buildFrom_grows config m discovery table refused built).2.2.rows
      have noRows : (∀ row ∈ rows, row.upstream = none) ↔
          config.maxChars ≤ m.chars.length ∨ captured table refused = [] := by
        cases taken : (captured table refused).take (config.maxChars - m.chars.length) with
        | nil =>
            rw [taken] at bound
            cases bound
            simpa [Nat.sub_eq_zero_iff_le] using taken
        | cons e rest =>
            rw [taken] at bound
            cases bound with
            | cons head tail =>
                have binds : ¬ (config.maxChars ≤ m.chars.length ∨ captured table refused = []) := by
                  intro nothing
                  rw [← Nat.sub_eq_zero_iff_le, ← List.take_eq_nil_iff, taken] at nothing
                  cases nothing
                simp [head.2, binds]
      simp only [State.Unbound, chars, List.mem_append, or_imp, forall_and, noRows]
      rfl

/-- Invalidating a cache leaves what a row stands for alone. -/
theorem of_mem_modify {m : State} (i : Nat) {row : MirrorChar}
    (mem : row ∈ m.chars.modify i fun row => { row with cache := [], primed := false }) :
    ∃ before ∈ m.chars, row.upstream = before.upstream ∧ row.localChar = before.localChar ∧
      row.upstreamHandle = before.upstreamHandle := by
  obtain ⟨k, inRange, rfl⟩ := List.mem_iff_getElem.mp mem
  rw [List.length_modify] at inRange
  rw [List.getElem_modify]
  refine ⟨m.chars[k], List.getElem_mem inRange, ?_⟩
  split <;> exact ⟨rfl, rfl, rfl⟩

/-- The rows' remote characteristics were made in discoveries up to this one. -/
def State.BoundUpTo (m : State) (discovery : Nat) : Prop :=
  ∀ row ∈ m.chars, ∀ ptr ∈ row.upstream, ptr.discovery ≤ discovery

theorem exists_of_forall₂ {α β : Type} {R : α → β → Prop} {xs : List α} {ys : List β} {x : α}
    (related : List.Forall₂ R xs ys) (mem : x ∈ xs) : ∃ y ∈ ys, R x y := by
  induction related with
  | nil => cases mem
  | cons head _ ih =>
      rcases List.mem_cons.mp mem with rfl | later
      · exact ⟨_, List.mem_cons_self, head⟩
      · obtain ⟨y, among, holds⟩ := ih later
        exact ⟨y, List.mem_cons_of_mem _ among, holds⟩

section BoundUpTo

variable {config : Config} {m : State} {discovery : Nat} {table : List RemoteService}

theorem boundUpTo_disconnectUpstream (rows : m.BoundUpTo discovery) :
    (disconnectUpstream m).BoundUpTo discovery := by
  unfold disconnectUpstream
  split
  · intro row mem ptr bound
    obtain ⟨before, -, rfl⟩ := List.mem_map.mp mem
    cases bound
  · exact rows

theorem boundUpTo_rebindUpstream (rows : m.BoundUpTo discovery) :
    (rebindUpstream m discovery table).1.BoundUpTo discovery := by
  unfold rebindUpstream
  split
  · intro row mem ptr bound
    obtain ⟨before, -, rfl⟩ := List.mem_map.mp mem
    unfold rebindRow at bound
    split at bound
    · rename_i e found
      obtain rfl : e.ptr discovery = ptr := Option.some.inj bound
      exact Nat.le_refl discovery
    · cases bound
  · exact rows

theorem boundUpTo_buildFrom {refused : List Nat} (rows : m.BoundUpTo discovery) :
    (buildFrom config m discovery table refused).1.BoundUpTo discovery := by
  cases built : m.built with
  | true =>
      simp only [buildFrom, built, if_true]
      exact boundUpTo_rebindUpstream rows
  | false =>
      obtain ⟨new, chars, bound⟩ := (buildFrom_grows config m discovery table refused built).2.2.rows
      intro row mem ptr isBound
      rw [chars] at mem
      rcases List.mem_append.mp mem with old | fresh
      · exact rows row old ptr isBound
      · obtain ⟨e, -, captured⟩ := exists_of_forall₂ bound fresh
        obtain rfl : e.ptr discovery = ptr := Option.some.inj (captured.2.symm.trans isBound)
        exact Nat.le_refl discovery

theorem boundUpTo_modify (i : Nat) (rows : m.BoundUpTo discovery) :
    ({ m with chars := m.chars.modify i fun row => { row with cache := [], primed := false } } :
      State).BoundUpTo discovery := by
  intro row mem
  obtain ⟨before, among, same, -⟩ := of_mem_modify i mem
  rw [same]
  exact rows before among

end BoundUpTo

end NimbleProxy.Clone.Mirror
