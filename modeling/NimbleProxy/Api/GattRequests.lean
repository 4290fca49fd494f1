/-
# Api.GattRequests -- reading, writing and subscribing to the attributes of a peer

The GATT part of `bt_handlers.cpp` over the connections of `Backend.Connection`. Any number
of connection tasks run `handle_read`, `handle_write_char`, `handle_write_desc` and
`handle_notify`, or `gatt_discovery::run`; the host task delivers notifications to
`notify_cb`. A handler asks `client_for` for the client object, looks the attribute up in
it, has NimBLE read or write, and answers: each of these is a step, and anything may happen
between two of them.

NimBLE is a parameter. A client object has the tree of attributes that was found last
(`Attributes`); a connect and a walk delete it. `readValue` and `writeValue` block; they go
over the connection on which they began, and fail if it is gone. What a peer returns is its
own business.

`State.trace` is bookkeeping: what the tasks were asked and what they answered, what NimBLE
was made to do, and what came from the peers, in order. That a task belongs to
`Backend.Connection` as well is left out: more interleavings are allowed than there are.
-/
import NimbleProxy.Theory.Exchanges
import NimbleProxy.Backend.DisconnectAnswer
import NimbleProxy.Api.Messages

namespace NimbleProxy.Api.GattRequests

open NimbleProxy.Theory NimbleProxy.Theory.Protobuf NimbleProxy.Backend ActionSystem Exchanges
open NimbleProxy.Backend.Connection (Link Frame)
open NimbleProxy.Backend.GattDiscovery (RemoteService RemoteCharacteristic RemoteDescriptor clientFor
  batteryTable)
open NimbleProxy.Api.FrameCodec (Message)
open NimbleProxy.Api.Messages

set_option autoImplicit false

/-! ## Requests -/

/-- `BluetoothGATTReadRequest`; a descriptor is read with the same record. -/
structure GattReadRequest where
  address : UInt64
  handle : UInt32

structure GattWriteRequest where
  address : UInt64
  handle : UInt32
  response : Bool
  data : Sized UInt8 512

structure GattWriteDescriptorRequest where
  address : UInt64
  handle : UInt32
  data : Sized UInt8 512

structure GattNotifyRequest where
  address : UInt64
  handle : UInt32
  enable : Bool

/-- `pb_decode` with the fields of each record. -/
structure Decoder where
  read : List UInt8 → Option GattReadRequest
  write : List UInt8 → Option GattWriteRequest
  writeDescriptor : List UInt8 → Option GattWriteDescriptorRequest
  notify : List UInt8 → Option GattNotifyRequest

/-- A proto3 reader for them. -/
def proto3 : Decoder where
  read bytes := do
    let fs ← fields bytes
    return ⟨.ofNat (number 1 fs), .ofNat (number 2 fs)⟩
  write bytes := do
    let fs ← fields bytes
    let data ← sized 512 (content 4 fs)
    return ⟨.ofNat (number 1 fs), .ofNat (number 2 fs), number 3 fs != 0, data⟩
  writeDescriptor bytes := do
    let fs ← fields bytes
    let data ← sized 512 (content 3 fs)
    return ⟨.ofNat (number 1 fs), .ofNat (number 2 fs), data⟩
  notify bytes := do
    let fs ← fields bytes
    return ⟨.ofNat (number 1 fs), .ofNat (number 2 fs), number 3 fs != 0⟩

/-- What a handler does with its attribute. -/
inductive Op
  | read
  | readDescriptor
  | write (data : List UInt8) (response : Bool)
  | writeDescriptor (data : List UInt8)
  | notify (enable : Bool)
  deriving DecidableEq

structure Request where
  address : UInt64
  handle : UInt32
  op : Op
  deriving DecidableEq

def handleRead (msgType : UInt16) (req : GattReadRequest) : Request :=
  ⟨req.address, req.handle, if msgType = 73 then .read else .readDescriptor⟩

def handleWriteChar (req : GattWriteRequest) : Request :=
  ⟨req.address, req.handle, .write req.data.val req.response⟩

def handleWriteDesc (req : GattWriteDescriptorRequest) : Request :=
  ⟨req.address, req.handle, .writeDescriptor req.data.val⟩

def handleNotify (req : GattNotifyRequest) : Request :=
  ⟨req.address, req.handle, .notify req.enable⟩

/-- `bt_handlers::handle`, as far as it goes to these handlers; a record that is not decoded is
dropped. -/
def handle (d : Decoder) (request : Message) : Option Request :=
  if request.type = 73 ∨ request.type = 76 then
    (d.read request.payload).map (handleRead request.type)
  else if request.type = 75 then (d.write request.payload).map handleWriteChar
  else if request.type = 77 then (d.writeDescriptor request.payload).map handleWriteDesc
  else if request.type = 78 then (d.notify request.payload).map handleNotify
  else none

/-- The parameter of `char_at` and `desc_at` is 16 bits wide. -/
def Request.attribute (r : Request) : UInt16 := r.handle.toUInt16

/-! ## Looking an attribute up -/

def charAt (services : List RemoteService) (handle : UInt16) : Option RemoteCharacteristic :=
  services.findSome? fun svc => svc.characteristics.find? fun chr => chr.handle = handle

def descAt (services : List RemoteService) (handle : UInt16) : Option RemoteDescriptor :=
  services.findSome? fun svc => svc.characteristics.findSome? fun chr =>
    chr.descriptors.find? fun dsc => dsc.handle = handle

/-- Whether the handler finds its attribute. -/
def Op.finds (services : List RemoteService) (handle : UInt16) : Op → Bool
  | .read | .write .. | .notify _ => (charAt services handle).isSome
  | .readDescriptor | .writeDescriptor _ => (descAt services handle).isSome

/-! ## Answers -/

/-- `if (copy > sizeof(data.bytes)) copy = sizeof(data.bytes);` -/
def copied (value : List UInt8) : Sized UInt8 512 :=
  ⟨value.take 512, List.length_take_le 512 value⟩

def sendGattError (r : Request) (err : Int32) : Response := .gattError ⟨r.address, r.handle, err⟩

/-- How far a handler got. -/
inductive Outcome
  | notConnected
  | notFound
  /-- what NimBLE returned; `none` is a failure, and of a write there is nothing else -/
  | performed (result : Option (List UInt8))
  /-- `setNotifyCallback` was called -/
  | registered
  deriving DecidableEq

/-- What the handler sends. A read that failed has the empty string for its value. -/
def respond (r : Request) : Outcome → Response
  | .notConnected => sendGattError r (-1)
  | .notFound => sendGattError r (-2)
  | .performed result =>
      match r.op with
      | .read | .readDescriptor => .read ⟨r.address, r.handle, copied (result.getD [])⟩
      | _ => if result.isSome then .write ⟨r.address, r.handle⟩ else sendGattError r (-3)
  | .registered => .notify ⟨r.address, r.handle⟩

/-- `notify_cb`. -/
def notifyCb (peer : UInt64) (handle : UInt16) (data : List UInt8) : Response :=
  .notifyData ⟨peer, handle.toUInt32, copied data⟩

/-! ## State -/

/-- What a `NimBLEClient` knows of its peer. -/
structure Attributes where
  /-- how often `deleteServices` was called; a pointer into the tree is of one of these times -/
  epoch : Nat := 0
  services : List RemoteService := []
  /-- the characteristics whose callback is `notify_cb` -/
  callbacks : UInt16 → Bool := fun _ => false

def Attributes.deleteServices (a : Attributes) : Attributes := { epoch := a.epoch + 1 }

/-- Where a task is. -/
inductive TaskPc
  | idle
  /-- `client_for` returned a client -/
  | found (r : Request) (c : ClientPtr)
  /-- in `readValue` or `writeValue`, over this connection if there is one -/
  | operating (r : Request) (c : ClientPtr) (epoch : Nat) (call : Option CallId)
  | answering (r : Request) (outcome : Outcome)
  /-- in `gatt_discovery::run`, with the client that `client_for` returned -/
  | discovering (c : ClientPtr)
  /-- in `discoverAttributes`, behind `deleteServices` -/
  | walking (c : ClientPtr)
  deriving DecidableEq

/-- A task has this client object from `client_for`, for a request. -/
def TaskPc.Holds (c : ClientPtr) : TaskPc → Prop
  | .found _ c' | .operating _ c' _ _ => c' = c
  | _ => False

instance (c : ClientPtr) : (pc : TaskPc) → Decidable (pc.Holds c)
  | .found .. | .operating .. => inferInstanceAs (Decidable (_ = _))
  | .idle | .answering .. | .discovering _ | .walking _ => inferInstanceAs (Decidable False)

/-- A peer is given by its address, if the client has a connection or attempts one. -/
inductive Event (n : Nat)
  | asked (t : Fin n) (r : Request)
  /-- NimBLE is done with a read or a write; `stale` if the attribute was deleted meanwhile -/
  | served (t : Fin n) (r : Request) (peer : Option UInt64) (stale : Bool)
      (result : Option (List UInt8))
  | callback (t : Fin n) (r : Request) (peer : Option UInt64) (enable : Bool)
  | answered (t : Fin n) (m : Response)
  /-- the attributes of a client were deleted -/
  | fresh (peer : Option UInt64)
  /-- a notification, and what `notify_cb` sent -/
  | notified (peer : UInt64) (handle : UInt16) (data : List UInt8) (m : Option Response)

/-- `g_reads`, `g_writes` and `g_notifies`, which wrap. -/
structure Counters where
  reads : UInt32 := 0
  writes : UInt32 := 0
  notifies : UInt32 := 0

structure State (n : Nat) where
  conn : Connection.State := {}
  attributes : ClientPtr → Attributes := fun _ => {}
  tasks : Fin n → TaskPc := fun _ => .idle
  counters : Counters := {}
  trace : List (Event n) := []

section

variable {n : Nat}

def State.setTask (s : State n) (t : Fin n) (pc : TaskPc) : State n :=
  { s with tasks := Function.update s.tasks t pc }

theorem setTask_self (s : State n) (t : Fin n) (pc : TaskPc) : (s.setTask t pc).tasks t = pc :=
  Function.update_self ..

theorem setTask_of_ne (s : State n) {t u : Fin n} (other : u ≠ t) (pc : TaskPc) :
    (s.setTask t pc).tasks u = s.tasks u := Function.update_of_ne other ..

def State.record (s : State n) (e : Event n) : State n := { s with trace := s.trace ++ [e] }

/-- The connection of a client. -/
def upCall? : Link → Option CallId
  | .up k _ _ => some k
  | _ => none

def callPeer (s : Connection.State) (call : Option CallId) : Option UInt64 :=
  call.map fun k => (s.history.calls k).address

def peerOf (s : Connection.State) (c : ClientPtr) : Option UInt64 := callPeer s (s.links c).call?

def State.deleteServices (s : State n) (c : ClientPtr) : State n :=
  { s with attributes := Function.update s.attributes c (s.attributes c).deleteServices }

/-! ## The handlers -/

/-- A request up to `client_for`. -/
def ask (s : State n) (t : Fin n) (r : Request) : State n :=
  match clientFor s.conn.slots r.address with
  | none => (s.record (.asked t r)).setTask t (.answering r .notConnected)
  | some c => (s.record (.asked t r)).setTask t (.found r c)

/-- `char_at` or `desc_at`, and the call of NimBLE. -/
def locate (s : State n) (t : Fin n) (r : Request) (c : ClientPtr) : State n :=
  let a := s.attributes c
  if r.op.finds a.services r.attribute then
    match r.op with
    | .notify enable =>
        { (s.record (.callback t r (peerOf s.conn c) enable)).setTask t
            (.answering r .registered) with
          attributes := Function.update s.attributes c
            { a with callbacks := Function.update a.callbacks r.attribute enable } }
    | _ => s.setTask t (.operating r c a.epoch (upCall? (s.conn.links c)))
  else s.setTask t (.answering r .notFound)

/-- NimBLE returns. -/
def perform (s : State n) (t : Fin n) (r : Request) (c : ClientPtr) (epoch : Nat)
    (call : Option CallId) (result : Option (List UInt8)) : State n :=
  (s.record (.served t r (callPeer s.conn call) (decide (epoch ≠ (s.attributes c).epoch))
    result)).setTask t (.answering r (.performed result))

/-- `stats::record_read`, `record_write` or `record_notify`. -/
def Counters.count (k : Counters) : Response → Counters
  | .read _ => { k with reads := k.reads + 1 }
  | .write _ => { k with writes := k.writes + 1 }
  | .notifyData _ => { k with notifies := k.notifies + 1 }
  | _ => k

/-- `send_async`. -/
def answer (s : State n) (t : Fin n) (r : Request) (outcome : Outcome) : State n :=
  { (s.record (.answered t (respond r outcome))).setTask t .idle with
    counters := s.counters.count (respond r outcome) }

/-- A notification over connection `k`. -/
def notification (s : State n) (c : ClientPtr) (k : CallId) (handle : UInt16)
    (data : List UInt8) : State n :=
  let peer := (s.conn.history.calls k).address
  if (s.attributes c).callbacks handle then
    { s.record (.notified peer handle data (some (notifyCb peer handle data))) with
      counters := s.counters.count (notifyCb peer handle data) }
  else s.record (.notified peer handle data none)

/-- `gatt_discovery::run` up to `client_for`. -/
def discover (s : State n) (t : Fin n) (address : UInt64) : State n :=
  match clientFor s.conn.slots address with
  | none => s
  | some c => s.setTask t (.discovering c)

/-- `client->connect` with `deleteAttributes`. -/
def connectIssue (s : State n) (t : Connection.TaskId) (f : Frame) (issued deletes : Bool) :
    State n :=
  let s := if deletes then s.deleteServices f.client else s
  let s := { s with conn := Connection.effect s.conn (.connectIssue t f issued) }
  if issued then s.record (.fresh (some f.address)) else s

/-! ## The system -/

inductive Action (n : Nat)
  | connection (a : Connection.Action)
  | connectIssue (t : Connection.TaskId) (f : Frame) (issued deletes : Bool)
  | ask (t : Fin n) (request : Message) (r : Request)
  | locate (t : Fin n) (r : Request) (c : ClientPtr)
  | perform (t : Fin n) (r : Request) (c : ClientPtr) (epoch : Nat) (call : Option CallId)
      (result : Option (List UInt8))
  | answer (t : Fin n) (r : Request) (outcome : Outcome)
  | discover (t : Fin n) (address : UInt64)
  | deleteServices (t : Fin n) (c : ClientPtr)
  /-- `discoverAttributes` has come so far -/
  | walk (t : Fin n) (c : ClientPtr) (services : List RemoteService)
  | walked (t : Fin n) (c : ClientPtr)
  | notification (c : ClientPtr) (k : CallId) (handle : UInt16) (data : List UInt8)

/-- A step that is not one of `client->connect`. -/
def isConnect : Connection.Action → Bool
  | .connectIssue .. => true
  | _ => false

def Guard (d : Decoder) (s : State n) : Action n → Prop
  | .connection a => Connection.Guard s.conn a ∧ isConnect a = false
  -- an attempt that was made has deleted the attributes before
  | .connectIssue t f issued deletes =>
      Connection.Guard s.conn (.connectIssue t f issued) ∧ (issued = true → deletes = true)
  | .ask t request r => s.tasks t = .idle ∧ handle d request = some r
  | .locate t r c => s.tasks t = .found r c
  -- only a connection that is still there brings a result
  | .perform t r c epoch call result => s.tasks t = .operating r c epoch call ∧
      (result.isSome = true → call.isSome = true ∧ upCall? (s.conn.links c) = call)
  | .answer t r outcome => s.tasks t = .answering r outcome
  | .discover t _ => s.tasks t = .idle
  | .deleteServices t c => s.tasks t = .discovering c
  | .walk t c _ => s.tasks t = .walking c
  | .walked t c => s.tasks t = .walking c
  | .notification c k handle _ => upCall? (s.conn.links c) = some k ∧
      (charAt (s.attributes c).services handle).isSome = true

instance (d : Decoder) (s : State n) : (a : Action n) → Decidable (Guard d s a)
  | .connection .. | .ask .. | .notification .. => inferInstanceAs (Decidable (_ ∧ _ = _))
  | .connectIssue .. => inferInstanceAs (Decidable (_ ∧ (_ = _ → _ = _)))
  | .perform .. => inferInstanceAs (Decidable (_ = _ ∧ (_ = _ → _ = _ ∧ _ = _)))
  | .locate .. | .answer .. | .discover .. | .deleteServices .. | .walk .. | .walked .. =>
      inferInstanceAs (Decidable (_ = _))

def effect (s : State n) : Action n → State n
  | .connection a => { s with conn := Connection.effect s.conn a }
  | .connectIssue t f issued deletes => connectIssue s t f issued deletes
  | .ask t _ r => ask s t r
  | .locate t r c => locate s t r c
  | .perform t r c epoch call result => perform s t r c epoch call result
  | .answer t r outcome => answer s t r outcome
  | .discover t address => discover s t address
  | .deleteServices t c =>
      ((s.deleteServices c).record (.fresh (peerOf s.conn c))).setTask t (.walking c)
  | .walk _ c services =>
      { s with attributes := Function.update s.attributes c { s.attributes c with services } }
  | .walked t _ => s.setTask t .idle
  | .notification c k handle data => notification s c k handle data

def system (n : Nat) (d : Decoder) : ActionSystem (State n) (Action n) where
  init := {}
  Guard := Guard d
  guardDecidable := inferInstance
  effect := effect

/-! ## What a task says -/

def Event.task : Event n → Option (Fin n)
  | .asked t _ | .served t .. | .callback t .. | .answered t _ => some t
  | .fresh _ | .notified .. => none

/-- A request and its answer, of one task; between them NimBLE did what was asked once, or there
was nothing to do it with. -/
inductive Exchange (t : Fin n) : List (Event n) → Prop
  | refused (r : Request) (outcome : Outcome) : outcome = .notConnected ∨ outcome = .notFound →
      Exchange t [.asked t r, .answered t (respond r outcome)]
  | performed (r : Request) (peer : Option UInt64) (stale : Bool)
      (result : Option (List UInt8)) : (∀ enable, r.op ≠ .notify enable) →
      Exchange t [.asked t r, .served t r peer stale result,
        .answered t (respond r (.performed result))]
  | registered (r : Request) (peer : Option UInt64) (enable : Bool) : r.op = .notify enable →
      Exchange t [.asked t r, .callback t r peer enable, .answered t (respond r .registered)]

/-- What a task has said of an exchange when it is here. -/
def Begun (t : Fin n) (part : List (Event n)) : TaskPc → Prop
  | .found r _ => part = [.asked t r]
  | .operating r .. => part = [.asked t r] ∧ ∀ enable, r.op ≠ .notify enable
  | .answering r outcome => Exchange t (part ++ [.answered t (respond r outcome)])
  | .idle | .discovering _ | .walking _ => part = []

def InDialogue (s : State n) (t : Fin n) : Prop :=
  ∃ part, Converses (Exchange t) (said Event.task t s.trace) part ∧ Begun t part (s.tasks t)

variable {d : Decoder} {s s' : State n} {a : Action n} {t : Fin n}

theorem said_foreign {e : Event n} (foreign : e.task = none) (trace : List (Event n)) :
    said Event.task t (trace ++ [e]) = said Event.task t trace := by
  apply said_other
  rw [foreign]
  exact nofun

/-- A step in which this task says nothing and does not move. -/
theorem InDialogue.frame (held : InDialogue s t)
    (trace : said Event.task t s'.trace = said Event.task t s.trace)
    (task : s'.tasks t = s.tasks t) : InDialogue s' t := by
  unfold InDialogue
  rw [trace, task]
  exact held

/-- A task moves without a word. -/
theorem dialogue_moves (held : ∀ u, InDialogue s u) {pc : TaskPc}
    (begun : ∀ part, Begun t part (s.tasks t) → Begun t part pc) (u : Fin n) :
    InDialogue (s.setTask t pc) u := by
  by_cases same : u = t
  · subst same
    obtain ⟨part, converses, begins⟩ := held u
    refine ⟨part, converses, ?_⟩
    rw [setTask_self]
    exact begun part begins
  · exact (held u).frame rfl (setTask_of_ne s same pc)

/-- A task says something, and its exchange goes on. -/
theorem dialogue_says (held : ∀ u, InDialogue s u) {pc : TaskPc} {e : Event n}
    (own : e.task = some t) (trace : s'.trace = s.trace ++ [e])
    (tasks : s'.tasks = Function.update s.tasks t pc)
    (begun : ∀ part, Begun t part (s.tasks t) → Begun t (part ++ [e]) pc) (u : Fin n) :
    InDialogue s' u := by
  by_cases same : u = t
  · subst same
    obtain ⟨part, converses, begins⟩ := held u
    refine ⟨part ++ [e], ?_, ?_⟩
    · rw [trace, said_own Event.task own]
      exact converses.more e
    · rw [tasks, Function.update_self]
      exact begun part begins
  · apply (held u).frame
    · rw [trace, said_other Event.task]
      intro his
      exact same (Option.some.inj (his.symm.trans own))
    · rw [tasks, Function.update_of_ne same]

/-- A task answers. -/
theorem dialogue_answers (held : ∀ u, InDialogue s u) {r : Request} {outcome : Outcome}
    (answering : s.tasks t = .answering r outcome)
    (trace : s'.trace = s.trace ++ [.answered t (respond r outcome)])
    (tasks : s'.tasks = Function.update s.tasks t .idle) (u : Fin n) : InDialogue s' u := by
  by_cases same : u = t
  · subst same
    obtain ⟨part, converses, begins⟩ := held u
    rw [answering] at begins
    refine ⟨[], ?_, ?_⟩
    · rw [trace, said_own Event.task rfl]
      exact (converses.more _).complete begins
    · rw [tasks, Function.update_self]
      rfl
  · apply (held u).frame
    · rw [trace, said_other Event.task]
      intro his
      exact same (Option.some.inj his).symm
    · rw [tasks, Function.update_of_ne same]

theorem dialogue_ask (held : ∀ u, InDialogue s u) (idle : s.tasks t = .idle) (r : Request)
    (u : Fin n) : InDialogue (ask s t r) u := by
  have begins : ∀ part, Begun t part (s.tasks t) → part = [] := by
    intro part begun
    rw [idle] at begun
    exact begun
  unfold ask
  split
  · refine dialogue_says held (e := .asked t r) rfl rfl rfl (fun part begun => ?_) u
    rw [begins part begun]
    exact .refused r .notConnected (.inl rfl)
  · refine dialogue_says held (e := .asked t r) rfl rfl rfl (fun part begun => ?_) u
    rw [begins part begun]
    rfl

theorem dialogue_locate (held : ∀ u, InDialogue s u) {r : Request} {c : ClientPtr}
    (found : s.tasks t = .found r c) (u : Fin n) : InDialogue (locate s t r c) u := by
  have begins : ∀ part, Begun t part (s.tasks t) → part = [.asked t r] := by
    intro part begun
    rw [found] at begun
    exact begun
  unfold locate
  dsimp only
  split
  · split
    · rename_i enable isNotify
      refine dialogue_says held (e := .callback t r (peerOf s.conn c) enable) rfl rfl rfl
        (fun part begun => ?_) u
      rw [begins part begun]
      exact .registered r _ enable isNotify
    · rename_i notNotify
      refine dialogue_moves held (fun part begun => ?_) u
      exact ⟨begins part begun, notNotify⟩
  · refine dialogue_moves held (fun part begun => ?_) u
    rw [begins part begun]
    exact .refused r .notFound (.inr rfl)

theorem dialogue_perform (held : ∀ u, InDialogue s u) {r : Request} {c : ClientPtr} {epoch : Nat}
    {call : Option CallId} (operating : s.tasks t = .operating r c epoch call)
    (result : Option (List UInt8)) (u : Fin n) :
    InDialogue (perform s t r c epoch call result) u := by
  refine dialogue_says held (e := .served t r _ _ result) rfl rfl rfl (fun part begun => ?_) u
  rw [operating] at begun
  rw [begun.1]
  exact .performed r _ _ result begun.2

theorem dialogue_step (held : ∀ u, InDialogue s u) (guard : Guard d s a) (u : Fin n) :
    InDialogue (effect s a) u := by
  cases a with
  | connection a => exact (held u).frame rfl rfl
  | connectIssue t f issued deletes =>
      cases deletes <;> cases issued
      · exact (held u).frame rfl rfl
      · exact (held u).frame (said_foreign rfl _) rfl
      · exact (held u).frame rfl rfl
      · exact (held u).frame (said_foreign rfl _) rfl
  | ask t request r => exact dialogue_ask held guard.1 r u
  | locate t r c => exact dialogue_locate held guard u
  | perform t r c epoch call result => exact dialogue_perform held guard.1 result u
  | answer t r outcome => exact dialogue_answers held guard rfl rfl u
  | discover t address =>
      have idle : s.tasks t = .idle := guard
      show InDialogue (discover s t address) u
      unfold discover
      split
      · exact held u
      · refine dialogue_moves held (fun part begun => ?_) u
        rw [idle] at begun
        exact begun
  | deleteServices t c =>
      have discovering : s.tasks t = .discovering c := guard
      have quiet : ∀ v, InDialogue ((s.deleteServices c).record (.fresh (peerOf s.conn c))) v :=
        fun v => (held v).frame (said_foreign rfl _) rfl
      refine dialogue_moves quiet (fun part begun => ?_) u
      rw [show ((s.deleteServices c).record _).tasks t = _ from discovering] at begun
      exact begun
  | walk t c services => exact (held u).frame rfl rfl
  | walked t c =>
      have walking : s.tasks t = .walking c := guard
      refine dialogue_moves held (fun part begun => ?_) u
      rw [walking] at begun
      exact begun
  | notification c k handle data =>
      show InDialogue (notification s c k handle data) u
      unfold notification
      dsimp only
      split
      · exact (held u).frame (said_foreign rfl _) rfl
      · exact (held u).frame (said_foreign rfl _) rfl

/-! ## The statistics -/

/-- What an event gives to `send_async`. -/
def Event.message : Event n → Option Response
  | .answered _ m => some m
  | .notified _ _ _ m => m
  | _ => none

def State.sent (s : State n) : List Response := s.trace.filterMap Event.message

/-- As many of each as there are messages, modulo `2 ^ 32`. -/
def Counters.Counts (k : Counters) (sent : List Response) : Prop :=
  k.reads = .ofNat (sent.countP (· matches .read _)) ∧
    k.writes = .ofNat (sent.countP (· matches .write _)) ∧
    k.notifies = .ofNat (sent.countP (· matches .notifyData _))

theorem Counters.Counts.count {k : Counters} {sent : List Response} (counts : k.Counts sent)
    (m : Response) : (k.count m).Counts (sent ++ [m]) := by
  obtain ⟨reads, writes, notifies⟩ := counts
  cases m <;>
    simp [Counters.count, Counters.Counts, List.countP_append, reads, writes, notifies,
      UInt32.ofNat_add]

theorem sent_record (s : State n) (e : Event n) :
    (s.record e).sent = s.sent ++ e.message.toList := by
  unfold State.sent State.record
  rw [List.filterMap_append]
  cases message : e.message <;> simp [message]

theorem counts_step (counts : s.counters.Counts s.sent) (a : Action n) :
    (effect s a).counters.Counts (effect s a).sent := by
  have silent : ∀ e : Event n, e.message = none → s.counters.Counts (s.record e).sent := by
    intro e none_
    rw [sent_record, none_, Option.toList_none, List.append_nil]
    exact counts
  have spoken : ∀ (e : Event n) (m : Response), e.message = some m →
      (s.counters.count m).Counts (s.record e).sent := by
    intro e m some_
    rw [sent_record, some_]
    exact counts.count m
  cases a with
  | connection a => exact counts
  | connectIssue t f issued deletes =>
      cases deletes <;> cases issued
      · exact counts
      · exact silent (.fresh (some f.address)) rfl
      · exact counts
      · exact silent (.fresh (some f.address)) rfl
  | ask t request r =>
      show (ask s t r).counters.Counts (ask s t r).sent
      unfold ask
      split <;> exact silent (.asked t r) rfl
  | locate t r c =>
      show (locate s t r c).counters.Counts (locate s t r c).sent
      unfold locate
      dsimp only
      split
      · split
        · exact silent (.callback t r (peerOf s.conn c) _) rfl
        · exact counts
      · exact counts
  | perform t r c epoch call result => exact silent (.served t r _ _ result) rfl
  | answer t r outcome => exact spoken (.answered t (respond r outcome)) _ rfl
  | discover t address =>
      show (discover s t address).counters.Counts (discover s t address).sent
      unfold discover
      split <;> exact counts
  | deleteServices t c => exact silent (.fresh (peerOf s.conn c)) rfl
  | walk t c services => exact counts
  | walked t c => exact counts
  | notification c k handle data =>
      show (notification s c k handle data).counters.Counts (notification s c k handle data).sent
      unfold notification
      dsimp only
      split
      · exact spoken (.notified _ handle data (some (notifyCb _ handle data))) _ rfl
      · exact silent (.notified _ handle data none) rfl

/-- **Every request is answered, once.** Whatever the other tasks do and however the
connections come and go: a task answers its requests one after the other, each with one message
that has the address and the handle of the request, and between the two NimBLE was made to do
what was asked exactly once, or not at all because there was no connection or no such
attribute. The last request may be on its way; a task that is idle owes nothing. The statistics
count what was sent, modulo `2 ^ 32`. -/
theorem requests_answered (d : Decoder) (s : State n) (path : (system n d).Reachable s) :
    (∀ t, ∃ part, Converses (Exchange t) (said Event.task t s.trace) part ∧
      Begun t part (s.tasks t)) ∧ s.counters.Counts s.sent := by
  refine path.invariant (P := fun s => (∀ t, InDialogue s t) ∧ s.counters.Counts s.sent) ?_ ?_
  · exact ⟨fun t => ⟨[], converses_nil, rfl⟩, rfl, rfl, rfl⟩
  · intro s a held guard
    exact ⟨fun t => dialogue_step held.1 guard t, counts_step held.2 a⟩

/-- A peer is connected and discovered, notifications are asked for and one comes; another task
reads, with a handle that is longer than 16 bits. -/
def batterySchedule : List (Action 2) :=
  let f : Frame := ⟨0, 7, 0, slotNo 0, 0⟩
  let subscribe : Request := ⟨7, 3, .notify true⟩
  let read : Request := ⟨7, 65539, .read⟩
  [.connection (.connectLocked 0 7 0), .connection (.connectNotify 0 f),
   .connection (.connectStopScan 0 f), .connectIssue 0 f true true,
   .connection (.established 0 0), .connection (.onConnect 0 0 false 247),
   .discover 0 7, .deleteServices 0 0, .walk 0 0 batteryTable, .walked 0 0,
   .ask 0 ⟨78, [8, 7, 16, 3, 24, 1]⟩ subscribe, .locate 0 subscribe 0, .answer 0 subscribe .registered,
   .ask 1 ⟨73, [8, 7, 16, 131, 128, 4]⟩ read, .locate 1 read 0, .notification 0 0 3 [90],
   .perform 1 read 0 2 (some 0) (some [90]), .answer 1 read (.performed (some [90]))]

theorem requests_answered_battery :
    ∃ s : State 2, (system 2 proto3).Reachable s ∧ s.trace.length = 9 ∧
      (∃ part, Converses (Exchange 1) (said Event.task 1 s.trace) part ∧
        Begun 1 part (s.tasks 1)) ∧ s.counters.Counts s.sent := by
  have path := (system 2 proto3).reachable_final batterySchedule
  have answered := requests_answered proto3 _ path
  exact ⟨_, path, by decide +kernel, answered.1 1, answered.2⟩

end

end NimbleProxy.Api.GattRequests
