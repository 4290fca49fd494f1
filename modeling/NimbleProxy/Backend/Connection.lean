/-
# Backend.Connection -- connect, disconnect and the NimBLE callbacks as steps

The transition system of `connection.cpp`. Any number of API tasks run
`connect` and `disconnect`; the one NimBLE host task runs `ClientCb::onConnect`,
`onConnectFail` and `onDisconnect`, one at a time. Each section under `g_mutex`
and each unlocked call (`client->connect`, `client->disconnect`, the user
callback, `notify_free_change`, the scan calls) is one action, and a task
between two of them is a `TaskPc` with the locals of the C++ function.

NimBLE is the part of the state in `links`: per client object at most one
attempt or link, which resolves and drops at any moment. `createClient` returns
a fresh client, a `connect` that returned true owes exactly one of `onConnect`
and `onConnectFail`, a link owes exactly one `onDisconnect` after its
`onConnect`, and a `connect` that returned false owes nothing. `disconnect` acts
on an established link only.

`History` is bookkeeping that no action reads: the `connect` calls made so far
and every invocation of a callback, in order. Which call a link belongs to is
bookkeeping too.
-/
import NimbleProxy.Theory.ActionSystem
import NimbleProxy.Backend.Slots

namespace NimbleProxy.Backend.Connection

open NimbleProxy.Theory

set_option autoImplicit false

abbrev TaskId := Nat

/-! ## State -/

/-- The locals of `connect` once its first critical section has claimed a slot. -/
structure Frame where
  call : CallId
  address : UInt64
  addressType : UInt8
  slot : SlotIdx
  client : ClientPtr
  deriving DecidableEq

/-- Where a `connect` that holds a claimed slot is. -/
inductive ClaimedAt
  /-- about to call `notify_free_change` -/
  | notify
  /-- about to stop the scan -/
  | stopScan
  /-- about to call `client->connect` -/
  | issue
  /-- `client->connect` returned false; about to retake the lock -/
  | unissued
  deriving DecidableEq

/-- Where a `connect` that has reset its slot again is. -/
inductive ReleasedAt
  | notify | callback
  deriving DecidableEq

/-- Where an API task is inside `connection::connect` or `connection::disconnect`. -/
inductive TaskPc
  | idle
  | claimed (pos : ClaimedAt) (f : Frame)
  | released (pos : ReleasedAt) (f : Frame) (cbSnapshot : Option ConnectCallback)
  /-- `disconnect` has marked the slot and is about to call `client->disconnect` -/
  | disconnectCall (client : ClientPtr)
  deriving DecidableEq

/-- Where the host task is inside a `ClientCb` callback. -/
inductive HostPc
  | idle
  | callback (cbSnapshot : Option ConnectCallback) (address : UInt64) (r : ConnectionResult)
  | notify
  | resume
  deriving DecidableEq

/-- What NimBLE holds for one client object. -/
inductive Link
  | idle
  /-- an issued connect without an outcome -/
  | attempting (call : CallId)
  /-- the attempt failed; `onConnectFail` is owed -/
  | failed (call : CallId)
  /-- an established link; `onConnect` was delivered or is owed, and once the
  link is lost `onDisconnect` is owed -/
  | up (call : CallId) (announced lost : Bool)
  deriving DecidableEq

/-- The place of `connection.cpp` that invoked a callback. -/
inductive Origin
  | notIssued | event
  deriving DecidableEq

structure Invocation where
  origin : Origin
  cb : ConnectCallback
  address : UInt64
  result : ConnectionResult
  deriving DecidableEq

structure CallRecord where
  address : UInt64 := 0
  addressType : UInt8 := 0
  slot : Option SlotIdx := none
  returned : Option Bool := none
  /-- how the attempt ended: a link, or no link -/
  outcome : Option Bool := none

structure History where
  nextCall : CallId := 0
  calls : CallId → CallRecord := fun _ => {}
  trace : List Invocation := []

structure State where
  slots : SlotTable := fun _ => {}
  tasks : TaskId → TaskPc := fun _ => .idle
  host : HostPc := .idle
  links : ClientPtr → Link := fun _ => .idle
  nextClient : ClientPtr := 0
  scanning : Bool := true
  history : History := {}

namespace Link

/-- `NimBLEClient::disconnect`. -/
def hangUp : Link → Link
  | .up k announced _ => .up k announced true
  | link => link

/-- The call whose attempt or link this is. -/
def call? : Link → Option CallId
  | .idle => none
  | .attempting k => some k
  | .failed k => some k
  | .up k _ _ => some k

/-- An event NimBLE still owes: an outcome, an undelivered `onConnect`, or the
`onDisconnect` of a lost link. -/
def Pending : Link → Prop
  | .idle => False
  | .attempting _ => True
  | .failed _ => True
  | .up _ announced lost => announced = false ∨ lost = true

instance : (link : Link) → Decidable link.Pending
  | .idle => inferInstanceAs (Decidable False)
  | .attempting _ | .failed _ => inferInstanceAs (Decidable True)
  | .up _ announced lost => inferInstanceAs (Decidable (announced = false ∨ lost = true))

end Link

namespace History

def record (h : History) (k : CallId) (change : CallRecord → CallRecord) : History :=
  { h with calls := Function.update h.calls k (change (h.calls k)) }

/-- `if (cb_snapshot) cb_snapshot(address, r);` -/
def invoke (h : History) (origin : Origin) (cbSnapshot : Option ConnectCallback)
    (address : UInt64) (r : ConnectionResult) : History :=
  match cbSnapshot with
  | some cb => { h with trace := h.trace ++ [⟨origin, cb, address, r⟩] }
  | none => h

end History

/-! ## Actions of the API tasks -/

/-- `return false` out of the first critical section of `connect`. -/
def refuse (s : State) (address : UInt64) (addressType : UInt8) : State :=
  { s with history :=
      { s.history with
        nextCall := s.history.nextCall + 1
        calls := Function.update s.history.calls s.history.nextCall
          { address, addressType, returned := some false } } }

/-- The claim of the free slot `i`, with `createClient` if it has no client yet. -/
def claim (s : State) (t : TaskId) (address : UInt64) (addressType : UInt8) (i : SlotIdx) : State :=
  let k := s.history.nextCall
  let client := (s.slots i).client.getD s.nextClient
  { s with
    slots := Function.update s.slots i
      { state := .connecting, address, addressType, client := some client, cb := some k }
    nextClient := if (s.slots i).client = none then s.nextClient + 1 else s.nextClient
    tasks := Function.update s.tasks t (.claimed .notify ⟨k, address, addressType, i, client⟩)
    history :=
      { s.history with
        nextCall := k + 1
        calls := Function.update s.history.calls k { address, addressType, slot := some i } } }

/-- The first critical section of `connect`. -/
def connectLocked (s : State) (t : TaskId) (address : UInt64) (addressType : UInt8) : State :=
  match s.slots.findByAddrLocked address with
  | some _ => refuse s address addressType
  | none =>
      match s.slots.allocLocked with
      | none => refuse s address addressType
      | some i => claim s t address addressType i

/-- `client->connect(...)`. When it returns true, `connect` returns true. -/
def connectIssue (s : State) (t : TaskId) (f : Frame) (issued : Bool) : State :=
  if issued then
    { s with
      links := Function.update s.links f.client (.attempting f.call)
      tasks := Function.update s.tasks t .idle
      history := s.history.record f.call fun r => { r with returned := some true } }
  else
    { s with
      tasks := Function.update s.tasks t (.claimed .unissued f)
      history := s.history.record f.call fun r => { r with outcome := some false } }

/-- The second critical section of `connect`, after an unissued attempt. -/
def connectUnissued (s : State) (t : TaskId) (f : Frame) : State :=
  { s with
    slots := Function.update s.slots f.slot (s.slots f.slot).reset
    tasks := Function.update s.tasks t (.released .notify f (s.slots f.slot).cb) }

/-- The callback of an unissued attempt; then `connect` returns true. -/
def connectCallback (s : State) (t : TaskId) (f : Frame) (cbSnapshot : Option ConnectCallback) :
    State :=
  { s with
    tasks := Function.update s.tasks t .idle
    history := (s.history.invoke .notIssued cbSnapshot f.address ⟨false, 0, -1⟩).record f.call
      fun r => { r with returned := some true } }

/-- The critical section of `disconnect`. -/
def disconnectLocked (s : State) (t : TaskId) (address : UInt64) : State :=
  match s.slots.findByAddrLocked address with
  | none => s
  | some i =>
      if (s.slots i).state = .connected then
        { s with
          slots := Function.update s.slots i { s.slots i with state := .disconnecting }
          tasks := Function.update s.tasks t
            (match (s.slots i).client with
             | some client => .disconnectCall client
             | none => .idle) }
      else s

/-! ## Actions of the host task -/

/-- `onConnect` up to the release of the lock. -/
def onConnect (s : State) (c : ClientPtr) (k : CallId) (lost : Bool) (mtu : UInt16) : State :=
  let links := Function.update s.links c (.up k true lost)
  match s.slots.findByClientLocked c with
  | some i =>
      if (s.slots i).state = .connecting then
        { s with
          links
          slots := Function.update s.slots i { s.slots i with state := .connected }
          host := .callback (s.slots i).cb (s.slots i).address ⟨true, mtu, 0⟩ }
      else { s with links, host := .callback none 0 ⟨true, mtu, 0⟩ }
  | none => { s with links, host := .callback none 0 ⟨true, mtu, 0⟩ }

/-- `onConnectFail` up to the release of the lock. -/
def onConnectFail (s : State) (c : ClientPtr) (reason : Int32) : State :=
  let links := Function.update s.links c .idle
  match s.slots.findByClientLocked c with
  | some i =>
      { s with
        links
        slots := Function.update s.slots i (s.slots i).reset
        host := .callback (s.slots i).cb (s.slots i).address ⟨false, 0, reason⟩ }
  | none => { s with links, host := .callback none 0 ⟨false, 0, reason⟩ }

/-- `onDisconnect` up to the release of the lock; without a slot it does nothing more. -/
def onDisconnect (s : State) (c : ClientPtr) (reason : Int32) : State :=
  let links := Function.update s.links c .idle
  match s.slots.findByClientLocked c with
  | some i =>
      { s with
        links
        slots := Function.update s.slots i (s.slots i).reset
        host := .callback (s.slots i).cb (s.slots i).address ⟨false, 0, reason⟩ }
  | none => { s with links }

/-! ## The system -/

/-- An action names the task or client it belongs to and the locals it reads. -/
inductive Action
  | connectLocked (t : TaskId) (address : UInt64) (addressType : UInt8)
  | connectNotify (t : TaskId) (f : Frame)
  | connectStopScan (t : TaskId) (f : Frame)
  | connectIssue (t : TaskId) (f : Frame) (issued : Bool)
  | connectUnissued (t : TaskId) (f : Frame)
  | releaseNotify (t : TaskId) (f : Frame) (cbSnapshot : Option ConnectCallback)
  | connectCallback (t : TaskId) (f : Frame) (cbSnapshot : Option ConnectCallback)
  | disconnectLocked (t : TaskId) (address : UInt64)
  | disconnectCall (t : TaskId) (c : ClientPtr)
  /-- the attempt of `c` becomes a link -/
  | established (c : ClientPtr) (k : CallId)
  | attemptFailed (c : ClientPtr) (k : CallId)
  /-- the peer or the radio ends the link -/
  | linkLost (c : ClientPtr) (k : CallId) (announced : Bool)
  | onConnect (c : ClientPtr) (k : CallId) (lost : Bool) (mtu : UInt16)
  | onConnectFail (c : ClientPtr) (k : CallId) (reason : Int32)
  | onDisconnect (c : ClientPtr) (k : CallId) (reason : Int32)
  | hostCallback (cbSnapshot : Option ConnectCallback) (address : UInt64) (r : ConnectionResult)
  | hostNotify
  | hostResume

def Guard (s : State) : Action → Prop
  | .connectLocked t _ _ => s.tasks t = .idle
  | .connectNotify t f => s.tasks t = .claimed .notify f
  | .connectStopScan t f => s.tasks t = .claimed .stopScan f
  | .connectIssue t f _ => s.tasks t = .claimed .issue f
  | .connectUnissued t f => s.tasks t = .claimed .unissued f
  | .releaseNotify t f cb => s.tasks t = .released .notify f cb
  | .connectCallback t f cb => s.tasks t = .released .callback f cb
  | .disconnectLocked t _ => s.tasks t = .idle
  | .disconnectCall t c => s.tasks t = .disconnectCall c
  | .established c k => s.links c = .attempting k
  | .attemptFailed c k => s.links c = .attempting k
  | .linkLost c k announced => s.links c = .up k announced false
  | .onConnect c k lost _ => s.host = .idle ∧ s.links c = .up k false lost
  | .onConnectFail c k _ => s.host = .idle ∧ s.links c = .failed k
  | .onDisconnect c k _ => s.host = .idle ∧ s.links c = .up k true true
  | .hostCallback cb address r => s.host = .callback cb address r
  | .hostNotify => s.host = .notify
  | .hostResume => s.host = .resume

instance (s : State) : (a : Action) → Decidable (Guard s a)
  | .connectLocked .. | .connectNotify .. | .connectStopScan .. | .connectIssue ..
  | .connectUnissued .. | .releaseNotify .. | .connectCallback .. | .disconnectLocked ..
  | .disconnectCall .. | .established .. | .attemptFailed .. | .linkLost ..
  | .hostCallback .. | .hostNotify | .hostResume => inferInstanceAs (Decidable (_ = _))
  | .onConnect .. | .onConnectFail .. | .onDisconnect .. =>
      inferInstanceAs (Decidable (_ = _ ∧ _ = _))

def effect (s : State) : Action → State
  | .connectLocked t address addressType => connectLocked s t address addressType
  | .connectNotify t f => { s with tasks := Function.update s.tasks t (.claimed .stopScan f) }
  | .connectStopScan t f =>
      { s with scanning := false, tasks := Function.update s.tasks t (.claimed .issue f) }
  | .connectIssue t f issued => connectIssue s t f issued
  | .connectUnissued t f => connectUnissued s t f
  | .releaseNotify t f cb => { s with tasks := Function.update s.tasks t (.released .callback f cb) }
  | .connectCallback t f cb => connectCallback s t f cb
  | .disconnectLocked t address => disconnectLocked s t address
  | .disconnectCall t c =>
      { s with
        links := Function.update s.links c (s.links c).hangUp
        tasks := Function.update s.tasks t .idle }
  | .established c k =>
      { s with
        links := Function.update s.links c (.up k false false)
        history := s.history.record k fun r => { r with outcome := some true } }
  | .attemptFailed c k =>
      { s with
        links := Function.update s.links c (.failed k)
        history := s.history.record k fun r => { r with outcome := some false } }
  | .linkLost c k announced => { s with links := Function.update s.links c (.up k announced true) }
  | .onConnect c k lost mtu => onConnect s c k lost mtu
  | .onConnectFail c _ reason => onConnectFail s c reason
  | .onDisconnect c _ reason => onDisconnect s c reason
  | .hostCallback cb address r =>
      { s with host := .notify, history := s.history.invoke .event cb address r }
  | .hostNotify => { s with host := .resume }
  | .hostResume => { s with host := .idle, scanning := true }

def system : ActionSystem State Action where
  init := {}
  Guard := Guard
  guardDecidable := inferInstance
  effect := effect

end NimbleProxy.Backend.Connection
