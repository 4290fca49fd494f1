/-
# Backend.AdvertBatching -- advertisements on their way to the clients

`onResult` puts an advertisement into the batch `g_pending`, `flush_once` takes the batch
out and hands it to `send_async`, `stop_forwarding` throws it away. The batch is under
`g_mutex`, but the decisions around it are not: `onResult` tests `g_forwarding` and
`has_client` before it takes the lock, and `flush_once` sends after it has given the lock
back. NimBLE's host task runs one `onResult` at a time, there is one flush task, and any
number of tasks may be in `start_forwarding` or `stop_forwarding`.

An advertisement is the call of `onResult` that brought it (`nth`), so that the same bytes
received twice are two of them. The history says what became of each.

Whatever the interleaving, the batches that are sent have the adverts in the order in which
they were appended, each at most once, and none is unaccounted for (`batching`). What a
stop is for is in `Backend.StaleBatch`.
-/
import NimbleProxy.Theory.ActionSystem
import NimbleProxy.Theory.FixedArray
import NimbleProxy.Theory.LittleEndian
import NimbleProxy.Backend.GattDiscovery

namespace NimbleProxy.Backend.AdvertBatching

open NimbleProxy.Theory NimbleProxy.Theory.Protobuf ActionSystem
open GattDiscovery (pbEncode)

set_option autoImplicit false

/-! ## Records -/

/-- `proxyapi_BluetoothLERawAdvertisement`. -/
structure RawAdvertisement where
  address : UInt64 := 0
  rssi : Int32 := 0
  addressType : UInt32 := 0
  data : List UInt8 := []
  /-- `NimBLEAddress` has six bytes -/
  sixBytes : address.toNat < 2 ^ 48 := by decide
  /-- the `max_size` of the field -/
  fits : data.length ≤ 62 := by decide

/-- What `onResult` reads of a `NimBLEAdvertisedDevice`. -/
structure Advertised where
  /-- least significant byte first -/
  address : Vector UInt8 6
  addressType : UInt8
  rssi : Int8
  payload : List UInt8

/-- The record that `onResult` builds. -/
def Advertised.record (dev : Advertised) : RawAdvertisement where
  address := UInt64.ofNat (LittleEndian.value dev.address.toList)
  rssi := dev.rssi.toInt32
  addressType := dev.addressType.toUInt32
  data := dev.payload.take 62
  sixBytes := by
    have bound := LittleEndian.value_lt dev.address.toList
    rw [Vector.length_toList] at bound
    rw [UInt64.toNat_ofNat']
    exact (Nat.mod_le _ _).trans_lt bound
  fits := List.length_take_le 62 dev.payload

def RawAdvertisement.encode (r : RawAdvertisement) : List UInt8 :=
  varintField 1 r.address.toNat ++ sintField 2 r.rssi.toInt ++
    varintField 3 r.addressType.toNat ++ bytesField 4 r.data

/-- `MAX_MESSAGE_SIZE`, the room that `send_async` gives to an encode callback. -/
def maxMessageSize : Nat := 2048

/-- `ADV_BATCH_SIZE`. -/
def batchSize : Nat := 16

/-- `encode_response`. -/
def encodeResponse (records : List RawAdvertisement) : List UInt8 :=
  pbEncode (repeatedField 1 (records.map RawAdvertisement.encode)) maxMessageSize

/-! ## State -/

/-- A record with its call of `onResult`: the how manieth it is, and how many calls of
`stop_forwarding` had returned when it began. -/
structure Advert where
  record : RawAdvertisement := {}
  nth : Nat := 0
  begunAfter : Nat := 0

abbrev Batch := FixedArray Advert batchSize

/-- Where the host task is in `onResult`. -/
inductive Host
  | idle
  /-- before the test of `g_forwarding` -/
  | begun (advert : Advert)
  /-- before `has_client` -/
  | flagged (advert : Advert)
  /-- before the lock -/
  | building (advert : Advert)

/-- Where the flush task is in `flush_once`. -/
inductive Flush
  | idle
  /-- after the lock, before `has_client` -/
  | drained (ctx : Batch)
  /-- before `send_async` -/
  | sending (ctx : Batch)

/-- Where a task is in `stop_forwarding`. -/
inductive Stop
  | idle
  /-- `g_forwarding` is cleared -/
  | stored
  /-- the lock was given back -/
  | cleared
  deriving DecidableEq

/-- A call of `send_async`, and how many calls of `stop_forwarding` had returned. -/
structure Handover where
  batch : Batch
  stops : Nat

structure State where
  forwarding : Bool := false
  pending : Batch := .cleared {} batchSize
  host : Host := .idle
  flush : Flush := .idle
  stop : Nat → Stop := fun _ => .idle
  -- history
  begun : Nat := 0
  stops : Nat := 0
  appended : List Advert := []
  handed : List Handover := []
  discarded : List Advert := []

/-- The batch that the flush task has taken out. -/
def Flush.ctx : Flush → Option Batch
  | .idle => none
  | .drained ctx | .sending ctx => some ctx

/-- Its adverts. -/
def Flush.list (flush : Flush) : List Advert := (flush.ctx.map FixedArray.list).getD []

/-- The adverts of all batches that were handed over, in this order. -/
def State.sent (s : State) : List Advert := s.handed.flatMap fun h => h.batch.list

/-! ## Actions -/

inductive Action
  /-- `onResult` -/
  | begin (dev : Advertised)
  | testFlag
  | testClient (client : Bool)
  | append
  /-- `flush_once` -/
  | drain
  | flushClient (client : Bool)
  | send
  | startForwarding (task : Nat)
  /-- `stop_forwarding` -/
  | stopStore (task : Nat)
  | stopClear (task : Nat)
  | stopReturn (task : Nat)

def Guard (s : State) : Action → Prop
  | .begin _ => (s.host matches .idle) = true
  | .testFlag => (s.host matches .begun _) = true
  | .testClient _ => (s.host matches .flagged _) = true
  | .append => (s.host matches .building _) = true
  | .drain => (s.flush matches .idle) = true
  | .flushClient _ => (s.flush matches .drained _) = true
  | .send => (s.flush matches .sending _) = true
  | .startForwarding task => s.stop task = .idle
  | .stopStore task => s.stop task = .idle
  | .stopClear task => s.stop task = .stored
  | .stopReturn task => s.stop task = .cleared

instance (s : State) : (a : Action) → Decidable (Guard s a)
  | .begin _ | .testFlag | .testClient _ | .append | .drain | .flushClient _ | .send
  | .startForwarding _ | .stopStore _ | .stopClear _ | .stopReturn _ =>
      inferInstanceAs (Decidable (_ = _))

def State.setStop (s : State) (task : Nat) (pc : Stop) : State :=
  { s with stop := Function.update s.stop task pc }

/-- `drain_locked`: the records are copied one by one. -/
def drainLocked (pending : Batch) : Batch :=
  FixedArray.copy id pending.list (.cleared {} batchSize)

def effect (s : State) : Action → State
  | .begin dev =>
      { s with host := .begun ⟨dev.record, s.begun, s.stops⟩, begun := s.begun + 1 }
  | .testFlag =>
      match s.host with
      | .begun advert => { s with host := if s.forwarding then .flagged advert else .idle }
      | _ => s
  | .testClient client =>
      match s.host with
      | .flagged advert => { s with host := if client then .building advert else .idle }
      | _ => s
  | .append =>
      match s.host with
      | .building advert =>
          if s.pending.count < batchSize then
            { s with
              pending := s.pending.push advert
              host := .idle
              appended := s.appended ++ [advert] }
          else { s with host := .idle }
      | _ => s
  | .drain =>
      if s.pending.count = 0 then s
      else { s with flush := .drained (drainLocked s.pending), pending := s.pending.reset }
  | .flushClient client =>
      match s.flush with
      | .drained ctx =>
          if client then { s with flush := .sending ctx }
          else { s with flush := .idle, discarded := s.discarded ++ ctx.list }
      | _ => s
  | .send =>
      match s.flush with
      | .sending ctx => { s with flush := .idle, handed := s.handed ++ [⟨ctx, s.stops⟩] }
      | _ => s
  | .startForwarding _ => { s with forwarding := true }
  | .stopStore task => ({ s with forwarding := false } : State).setStop task .stored
  | .stopClear task =>
      ({ s with pending := s.pending.reset, discarded := s.discarded ++ s.pending.list } :
        State).setStop task .cleared
  | .stopReturn task => ({ s with stops := s.stops + 1 } : State).setStop task .idle

def system : ActionSystem State Action where
  init := {}
  Guard := Guard
  guardDecidable := inferInstance
  effect := effect

/-- What a firing can do. -/
inductive Fires (s : State) : Action → State → Prop
  | begin (dev : Advertised) :
      Fires s (.begin dev)
        { s with host := .begun ⟨dev.record, s.begun, s.stops⟩, begun := s.begun + 1 }
  | testFlag {advert : Advert} (host : s.host = .begun advert) :
      Fires s .testFlag { s with host := if s.forwarding then .flagged advert else .idle }
  | testClient {advert : Advert} (client : Bool) (host : s.host = .flagged advert) :
      Fires s (.testClient client) { s with host := if client then .building advert else .idle }
  | append {advert : Advert} (host : s.host = .building advert)
      (room : s.pending.count < batchSize) :
      Fires s .append
        { s with
          pending := s.pending.push advert
          host := .idle
          appended := s.appended ++ [advert] }
  | drop {advert : Advert} (host : s.host = .building advert) (full : s.pending.count ≥ batchSize) :
      Fires s .append { s with host := .idle }
  | drainNothing (empty : s.pending.count = 0) : Fires s .drain s
  | drain (flush : s.flush = .idle) (filled : s.pending.count ≠ 0) :
      Fires s .drain { s with flush := .drained (drainLocked s.pending), pending := s.pending.reset }
  | flushClient {ctx : Batch} (flush : s.flush = .drained ctx) :
      Fires s (.flushClient true) { s with flush := .sending ctx }
  | flushAlone {ctx : Batch} (flush : s.flush = .drained ctx) :
      Fires s (.flushClient false)
        { s with flush := .idle, discarded := s.discarded ++ ctx.list }
  | send {ctx : Batch} (flush : s.flush = .sending ctx) :
      Fires s .send { s with flush := .idle, handed := s.handed ++ [⟨ctx, s.stops⟩] }
  | startForwarding (task : Nat) : Fires s (.startForwarding task) { s with forwarding := true }
  | stopStore (task : Nat) :
      Fires s (.stopStore task) (({ s with forwarding := false } : State).setStop task .stored)
  | stopClear (task : Nat) :
      Fires s (.stopClear task)
        (({ s with pending := s.pending.reset, discarded := s.discarded ++ s.pending.list } :
          State).setStop task .cleared)
  | stopReturn (task : Nat) :
      Fires s (.stopReturn task) (({ s with stops := s.stops + 1 } : State).setStop task .idle)

theorem fires {s : State} {a : Action} (guard : Guard s a) : Fires s a (effect s a) := by
  cases a with
  | begin dev => exact .begin dev
  | testFlag =>
      simp only [Guard, effect] at guard ⊢
      split at guard
      · rename_i advert host
        exact .testFlag host
      · cases guard
  | testClient client =>
      simp only [Guard, effect] at guard ⊢
      split at guard
      · rename_i advert host
        exact .testClient client host
      · cases guard
  | append =>
      simp only [Guard, effect] at guard ⊢
      split at guard
      · rename_i advert host
        split
        · rename_i room
          exact .append host room
        · rename_i full
          exact .drop host (Nat.le_of_not_lt full)
      · cases guard
  | drain =>
      simp only [Guard, effect] at guard ⊢
      split at guard
      · rename_i flush
        split
        · rename_i empty
          exact .drainNothing empty
        · rename_i filled
          exact .drain flush filled
      · cases guard
  | flushClient client =>
      simp only [Guard, effect] at guard ⊢
      split at guard
      · rename_i ctx flush
        cases client with
        | true => exact .flushClient flush
        | false => exact .flushAlone flush
      · cases guard
  | send =>
      simp only [Guard, effect] at guard ⊢
      split at guard
      · rename_i ctx flush
        exact .send flush
      · cases guard
  | startForwarding task => exact .startForwarding task
  | stopStore task => exact .stopStore task
  | stopClear task => exact .stopClear task
  | stopReturn task => exact .stopReturn task

/-- What every firing keeps holds in every reachable state. -/
theorem invariant {P : State → Prop} (start : P system.init)
    (keeps : ∀ {s t a}, P s → Fires s a t → P t) {s : State} (path : system.Reachable s) : P s :=
  path.invariant start fun _ _ held guard => keeps held (fires guard)

/-! ## Nothing is lost or sent twice -/

theorem list_drainLocked (pending : Batch) : (drainLocked pending).list = pending.list := by
  rw [drainLocked, FixedArray.list_copy_cleared, List.map_id,
    List.take_of_length_le pending.length_list_le]

/-- Where the appended adverts are. -/
structure Flow (s : State) : Prop where
  account : s.appended.Perm (s.sent ++ s.discarded ++ (s.flush.list ++ s.pending.list))
  order : (s.sent ++ (s.flush.list ++ s.pending.list)).Sublist s.appended
  filled : ∀ h ∈ s.handed, h.batch.list ≠ []
  filledCtx : ∀ ctx ∈ s.flush.ctx, ctx.list ≠ []

theorem flow_init : Flow system.init := by
  have pending : system.init.pending.list = [] := FixedArray.list_cleared _
  refine ⟨?_, ?_, nofun, nofun⟩
  · rw [pending]
    exact .nil
  · rw [pending]
    exact .slnil

/-- A step that changes none of this. -/
theorem Flow.of_eq {s t : State} (flow : Flow s) (appended : t.appended = s.appended)
    (handed : t.handed = s.handed) (discarded : t.discarded = s.discarded)
    (ctx : t.flush.ctx = s.flush.ctx) (pending : t.pending = s.pending) : Flow t := by
  refine ⟨?_, ?_, handed ▸ flow.filled, ctx ▸ flow.filledCtx⟩
  · rw [State.sent, Flush.list, appended, handed, discarded, ctx, pending]
    exact flow.account
  · rw [State.sent, Flush.list, appended, handed, ctx, pending]
    exact flow.order

theorem flow_fires {s t : State} {a : Action} (flow : Flow s) (fired : Fires s a t) : Flow t := by
  have account := flow.account
  have order := flow.order
  cases fired with
  | begin | testFlag | testClient | drop | drainNothing | startForwarding | stopStore | stopReturn =>
      exact flow.of_eq rfl rfl rfl rfl rfl
  | append host room =>
      rename_i advert
      have pushed := FixedArray.list_push room advert
      refine ⟨?_, ?_, flow.filled, flow.filledCtx⟩
      · rw [pushed]
        simpa [State.sent, List.append_assoc] using account.append_right [advert]
      · rw [pushed]
        simpa [State.sent, List.append_assoc] using order.append_right [advert]
  | drain flush filled =>
      have none : s.flush.list = [] := by rw [flush]; rfl
      have taken : Flush.list (.drained (drainLocked s.pending)) = s.pending.list :=
        list_drainLocked s.pending
      rw [none, List.nil_append] at account order
      refine ⟨?_, ?_, flow.filled, ?_⟩
      · rw [taken, FixedArray.list_reset, List.append_nil]
        exact account
      · rw [taken, FixedArray.list_reset, List.append_nil]
        exact order
      · rintro _ ⟨⟩
        rw [list_drainLocked, ne_eq, FixedArray.list_eq_nil_iff]
        exact filled
  | flushClient flush => exact flow.of_eq rfl rfl rfl (by rw [flush]; rfl) rfl
  | flushAlone flush =>
      rename_i ctx
      have held : s.flush.list = ctx.list := by rw [flush]; rfl
      rw [held] at account order
      refine ⟨?_, ?_, flow.filled, nofun⟩
      · simpa [State.sent, Flush.list, Flush.ctx] using account
      · have rest : (s.sent ++ s.pending.list).Sublist (s.sent ++ (ctx.list ++ s.pending.list)) :=
          (List.sublist_append_right _ _).append_left s.sent
        exact rest.trans order
  | send flush =>
      rename_i ctx
      have held : s.flush.list = ctx.list := by rw [flush]; rfl
      have sent : State.sent { s with flush := .idle, handed := s.handed ++ [⟨ctx, s.stops⟩] } =
          s.sent ++ ctx.list := by simp [State.sent]
      rw [held] at account order
      refine ⟨?_, ?_, ?_, nofun⟩
      · apply account.trans
        rw [sent]
        simpa [Flush.list, Flush.ctx, List.append_assoc] using
          (List.perm_append_comm_assoc s.discarded ctx.list s.pending.list).append_left s.sent
      · rw [sent]
        simpa [Flush.list, Flush.ctx] using order
      · intro h mem
        rcases List.mem_append.mp mem with old | new
        · exact flow.filled h old
        · obtain rfl := List.mem_singleton.mp new
          exact flow.filledCtx ctx (by rw [flush]; rfl)
  | stopClear task =>
      refine ⟨?_, ?_, flow.filled, flow.filledCtx⟩
      · apply account.trans
        simp only [State.setStop, FixedArray.list_reset, List.append_nil, List.append_assoc,
          State.sent]
        exact (List.perm_append_comm.append_left _).append_left _
      · simp only [State.setStop, FixedArray.list_reset, List.append_nil, State.sent]
        have rest : (s.sent ++ s.flush.list).Sublist (s.sent ++ (s.flush.list ++ s.pending.list)) :=
          (List.sublist_append_left _ _).append_left s.sent
        exact rest.trans order

/-- The advert of the call that runs. -/
def Host.advert : Host → Option Advert
  | .idle => none
  | .begun advert | .flagged advert | .building advert => some advert

/-- The calls of `onResult` append in their order. -/
structure Numbered (s : State) : Prop where
  increasing : s.appended.Pairwise fun a b => a.nth < b.nth
  past : ∀ a ∈ s.appended, a.nth < s.begun
  behind : ∀ advert ∈ s.host.advert, advert.nth < s.begun ∧ ∀ a ∈ s.appended, a.nth < advert.nth

theorem numbered_init : Numbered system.init := ⟨.nil, nofun, nofun⟩

/-- A step that appends nothing, with the same call or none. -/
theorem Numbered.of_eq {s t : State} (numbered : Numbered s) (appended : t.appended = s.appended)
    (begun : t.begun = s.begun) (host : ∀ advert ∈ t.host.advert, advert ∈ s.host.advert) :
    Numbered t := by
  refine ⟨appended ▸ numbered.increasing, ?_, fun advert own => ?_⟩
  · rw [appended, begun]
    exact numbered.past
  · rw [appended, begun]
    exact numbered.behind advert (host advert own)

theorem numbered_fires {s t : State} {a : Action} (numbered : Numbered s) (fired : Fires s a t) :
    Numbered t := by
  cases fired with
  | begin dev =>
      refine ⟨numbered.increasing, fun a mem => Nat.lt_succ_of_lt (numbered.past a mem), ?_⟩
      rintro _ ⟨⟩
      exact ⟨Nat.lt_succ_self _, numbered.past⟩
  | testFlag host =>
      refine numbered.of_eq rfl rfl fun advert own => ?_
      rw [host]
      dsimp only at own
      split at own
      · exact own
      · cases own
  | testClient client host =>
      refine numbered.of_eq rfl rfl fun advert own => ?_
      rw [host]
      cases client
      · cases own
      · exact own
  | append host room =>
      rename_i advert
      obtain ⟨old, last⟩ := numbered.behind advert (by rw [host]; rfl)
      refine ⟨?_, ?_, nofun⟩
      · exact List.pairwise_append.mpr ⟨numbered.increasing, List.pairwise_singleton .., fun a mem b new =>
          List.mem_singleton.mp new ▸ last a mem⟩
      · intro a mem
        rcases List.mem_append.mp mem with before | new
        · exact numbered.past a before
        · exact List.mem_singleton.mp new ▸ old
  | drop host full => exact numbered.of_eq rfl rfl nofun
  | drainNothing | drain | flushClient | flushAlone | send | startForwarding | stopStore
  | stopClear | stopReturn => exact numbered.of_eq rfl rfl fun _ own => own

/-! ## The message -/

theorem length_record_le (r : RawAdvertisement) : r.encode.length ≤ 84 := by
  have address := varintFieldSize_le 1 r.address.toNat 6 (by decide)
    (r.sixBytes.trans (by decide))
  have signed : zigzag r.rssi.toInt < 2 * 2 ^ 31 :=
    zigzag_lt (by simpa using r.rssi.le_toInt) (by simpa using r.rssi.toInt_lt)
  have rssi := varintFieldSize_le 2 (zigzag r.rssi.toInt) 4 (by decide)
    (signed.trans (by decide))
  have addressType := varintFieldSize_le 3 r.addressType.toNat 4 (by decide)
    (r.addressType.toNat_lt.trans (by decide))
  have fits := r.fits
  have data := length_bytesField_le 4 r.data (by decide) (by omega)
  simp only [RawAdvertisement.encode, sintField, List.length_append, length_varintField]
  omega

/-- Sixteen records of 62 bytes with their headers are less than 2 KiB. -/
theorem length_message_le (batch : Batch) :
    (repeatedField 1 (batch.list.map fun a => a.record.encode)).length ≤ maxMessageSize := by
  have records : ∀ bytes ∈ batch.list.map fun a => a.record.encode, bytes.length ≤ 84 := by
    intro bytes mem
    obtain ⟨a, -, rfl⟩ := List.mem_map.mp mem
    exact length_record_le a.record
  have message := length_repeatedField_le (by decide : 1 < 16) (by decide : 84 < 128) records
  have length : batch.list.length ≤ 16 := batch.length_list_le
  rw [List.length_map] at message
  unfold maxMessageSize
  omega

/-- **`encode_response` does not run out of space**, and its answer is not taken for a failure. -/
theorem encodeResponse_eq (batch : Batch) :
    encodeResponse (batch.list.map Advert.record) =
      repeatedField 1 (batch.list.map fun a => a.record.encode) := by
  rw [encodeResponse, List.map_map]
  exact if_pos (length_message_le batch)

theorem encodeResponse_ne_nil {batch : Batch} (filled : batch.list ≠ []) :
    encodeResponse (batch.list.map Advert.record) ≠ [] := by
  rw [encodeResponse_eq]
  obtain ⟨a, rest, list⟩ := List.exists_cons_of_ne_nil filled
  simp [list, repeatedField, lenField, tag, Varint.encode_ne_nil]

/-! ## Batching -/

/-- What became of the adverts. -/
structure Batched (s : State) : Prop where
  /-- as they were appended -/
  inOrder : s.sent.Sublist s.appended
  /-- each call of `onResult` is sent once at most -/
  once : (s.sent.map Advert.nth).Nodup
  sizes : ∀ h ∈ s.handed, 1 ≤ h.batch.list.length ∧ h.batch.list.length ≤ 16
  /-- handed over, discarded, in the hands of the flush task, or in the batch -/
  account : s.appended.Perm (s.sent ++ s.discarded ++ (s.flush.list ++ s.pending.list))
  encoded : ∀ h ∈ s.handed, encodeResponse (h.batch.list.map Advert.record) ≠ []

/-- **Advertisement batching.** Whatever the tasks do, the adverts that are handed to `send_async`
are some of the appended ones, in their order and each once; the batches have 1 to 16; every
appended advert is accounted for. The message of every batch fits. -/
theorem batching {s : State} (path : system.Reachable s) :
    Batched s ∧ ∀ batch : Batch,
      (repeatedField 1 (batch.list.map fun a => a.record.encode)).length ≤ maxMessageSize ∧
      encodeResponse (batch.list.map Advert.record) =
        repeatedField 1 (batch.list.map fun a => a.record.encode) := by
  have flow := invariant flow_init flow_fires path
  have numbered := invariant numbered_init numbered_fires path
  have inOrder : s.sent.Sublist s.appended :=
    (List.sublist_append_left _ _).trans flow.order
  refine ⟨⟨inOrder, ?_, ?_, flow.account, ?_⟩, fun batch => ⟨length_message_le batch,
    encodeResponse_eq batch⟩⟩
  · have increasing : s.sent.Pairwise fun a b => a.nth < b.nth := numbered.increasing.sublist inOrder
    exact List.pairwise_map.mpr (increasing.imp Nat.ne_of_lt)
  · intro h mem
    exact ⟨List.length_pos_iff.mpr (flow.filled h mem), h.batch.length_list_le⟩
  · intro h mem
    exact encodeResponse_ne_nil (flow.filled h mem)

def someDevice : Advertised where
  address := #v[1, 2, 3, 4, 5, 6]
  addressType := 1
  rssi := -60
  payload := [2, 1, 6]

/-- One call of `onResult` that gets to the lock. -/
def received : List Action := [.begin someDevice, .testFlag, .testClient true, .append]

/-- Two adverts are sent, one is discarded, one is pending. -/
def fourAdverts : List Action :=
  [.startForwarding 0] ++ received ++ received ++ ([.drain, .flushClient true, .send] : List Action) ++
    received ++ ([.stopStore 0, .stopClear 0, .stopReturn 0, .startForwarding 0] : List Action) ++ received

theorem batching_four :
    ∃ s, system.Reachable s ∧ s.sent.length = 2 ∧ s.discarded.length = 1 ∧ Batched s := by
  refine ⟨_, system.reachable_final fourAdverts, ?_, ?_,
    (batching (system.reachable_final fourAdverts)).1⟩
  · decide +kernel
  · decide +kernel

end NimbleProxy.Backend.AdvertBatching
