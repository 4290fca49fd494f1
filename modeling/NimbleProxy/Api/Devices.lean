/-
# Api.Devices -- device requests, connection responses and the teardown of links

Puts `connection.cpp` under the API server: the connection tasks of `Api.Server`
run `handle_device_request` and, for the last client, `disconnect_all`, and are
the tasks that `Backend.Connection` calls by number. A task is inside
`connection.cpp` while `backend.tasks` says so and in the rest of its handler
while `devices` says so.

A `BluetoothDeviceConnectionResponse` comes from a refused request or from
`on_connection_state`, called by a connection task or by the host task. Its
`send_async` is two steps: the look at `g_active_count`, which drops it when no
client is counted, and the broadcast under `g_tx_mutex`. `log` has both kinds in
order; how a broadcast reaches each fd is part of `Api.Server`.

`disconnect_all` reads a slot's state and its address without the lock, then
calls `disconnect`; these are three steps for each slot.
-/
import NimbleProxy.Api.Registry
import NimbleProxy.Backend.DisconnectAnswer

namespace NimbleProxy.Api.Devices

open NimbleProxy.Theory NimbleProxy.Backend NimbleProxy.Api.Server

set_option autoImplicit false

/-! ## Requests and responses -/

/-- `BluetoothDeviceRequestType`; the decoder lets values outside the enumeration through. -/
inductive DeviceRequestType
  | connect | disconnect | pair | unpair | connectV3WithCache | connectV3WithoutCache | clearCache
  | unknown
  deriving DecidableEq

/-- `BluetoothDeviceRequest`, as decoded. -/
structure DeviceRequest where
  address : UInt64
  requestType : DeviceRequestType
  hasAddressType : Bool
  addressType : UInt32
  deriving DecidableEq

/-- Who produced a response: `handle_device_request`, or `on_connection_state` called
from that place of `connection.cpp`. -/
inductive Producer
  | refusal
  | callback (origin : Connection.Origin)
  deriving DecidableEq

/-- `BluetoothDeviceConnectionResponse`. -/
structure Response where
  producer : Producer
  address : UInt64
  connected : Bool
  mtu : UInt32
  error : Int32
  deriving DecidableEq

/-- The message `on_connection_state` builds. -/
def onConnectionState (origin : Connection.Origin) (address : UInt64) (r : ConnectionResult) :
    Response :=
  ⟨.callback origin, address, r.connected, r.mtu.toUInt32, r.error⟩

/-- The message of a `connect` that returned false. -/
def refusal (address : UInt64) : Response :=
  ⟨.refusal, address, false, 0, -100⟩

/-- A response that went through `send_async`; without a counted client it is dropped. -/
structure Sent where
  response : Response
  broadcast : Bool
  deriving DecidableEq

/-! ## State -/

/-- Where a connection task is outside `connection.cpp`. -/
inductive DevicePc
  /-- between two requests, or at the start of `on_last_client_disconnect` -/
  | idle
  /-- `connect` returned false; about to call `send_async` -/
  | refused (address : UInt64)
  /-- in `send_async`, about to broadcast -/
  | sending (response : Response)
  /-- `disconnect_all`, about to look at the state of slot `i` -/
  | sweep (i : Nat)
  /-- the slot is in use; about to read its address -/
  | readAddress (i : SlotIdx)
  /-- about to call `disconnect` -/
  | visit (i : SlotIdx) (address : UInt64)
  deriving DecidableEq

structure State where
  server : Server.State := {}
  backend : Connection.State := {}
  devices : ConnId → DevicePc := fun _ => .idle
  /-- the host task is in `send_async`, about to broadcast -/
  hostSend : Option Response := none
  log : List Sent := []

/-- Where connection `c` is. -/
def State.pos (s : State) (c : ConnId) : Option ConnAt :=
  (s.server.conns c).map Prod.fst

def State.setDevice (s : State) (c : ConnId) (device : DevicePc) : State :=
  { s with devices := Function.update s.devices c device }

/-! ## Handlers -/

/-- `send_async` by a connection task, up to the broadcast. -/
def sendAsync (s : State) (c : ConnId) (response : Response) : State :=
  if s.server.activeCount = 0 then
    { s.setDevice c .idle with log := s.log ++ [⟨response, false⟩] }
  else s.setDevice c (.sending response)

/-- `send_async` by the host task, up to the broadcast. -/
def hostSendAsync (s : State) (response : Response) : State :=
  if s.server.activeCount = 0 then { s with log := s.log ++ [⟨response, false⟩] }
  else { s with hostSend := some response }

/-- A CONNECT up to the end of the first critical section of `connect`. -/
def startConnect (s : State) (c : ConnId) (address : UInt64) (addressType : UInt8) : State :=
  let backend := Connection.effect s.backend (.connectLocked c address addressType)
  { s.setDevice c (if backend.tasks c = .idle then .refused address else .idle) with backend }

/-- `handle_device_request`, up to the first critical section it enters. -/
def handleDeviceRequest (s : State) (c : ConnId) (req : DeviceRequest) : State :=
  let addrType : UInt8 := if req.hasAddressType then req.addressType.toUInt8 else 0
  match req.requestType with
  | .connect | .connectV3WithCache | .connectV3WithoutCache => startConnect s c req.address addrType
  | .disconnect => { s with backend := Connection.effect s.backend (.disconnectLocked c req.address) }
  -- answered by a GATT error, which is not a connection response, or not at all
  | .pair | .unpair | .clearCache | .unknown => s

/-- The call of `on_connection_state` in a step of `connection.cpp`. -/
def deliver (s : State) : Connection.Action → State
  | .hostCallback (some _) address r => hostSendAsync s (onConnectionState .event address r)
  | .connectCallback t f (some _) =>
      sendAsync s t (onConnectionState .notIssued f.address ⟨false, 0, -1⟩)
  | _ => s

/-- `if (s.state != State::Free)` of `disconnect_all`. -/
def sweepState (s : State) (c : ConnId) (i : SlotIdx) : State :=
  s.setDevice c (if (s.backend.slots i).state ≠ .free then .readAddress i else .sweep (i + 1))

/-- The `disconnect` of `disconnect_all`, up to the end of its critical section. -/
def visit (s : State) (c : ConnId) (i : SlotIdx) (address : UInt64) : State :=
  { s.setDevice c (.sweep (i + 1)) with
    backend := Connection.effect s.backend (.disconnectLocked c address) }

/-! ## The system -/

inductive Action
  | server (a : Server.Action)
  | backend (a : Connection.Action)
  /-- a decoded device request -/
  | request (c : ConnId) (req : DeviceRequest)
  /-- the `send_async` of a refused CONNECT -/
  | refuse (c : ConnId) (address : UInt64)
  | broadcast (c : ConnId) (response : Response)
  | hostBroadcast (response : Response)
  /-- `on_last_client_disconnect` enters `disconnect_all` -/
  | sweepStart (c : ConnId)
  | sweepState (c : ConnId) (i : SlotIdx)
  | readAddress (c : ConnId) (i : SlotIdx)
  | visit (c : ConnId) (i : SlotIdx) (address : UInt64)

/-- A connection goes on only when its handler has returned. -/
def Returned (s : State) : Server.Action → Prop
  | .endLoop c _ => s.devices c = .idle ∧ s.backend.tasks c = .idle
  | .teardownDone c _ => s.devices c = .sweep maxConnections ∧ s.backend.tasks c = .idle
  | _ => True

instance (s : State) : (a : Server.Action) → Decidable (Returned s a)
  | .endLoop .. | .teardownDone .. => inferInstanceAs (Decidable (_ = _ ∧ _ = _))
  | .released .. | .accept .. | .registerClient .. | .countClient .. | .refuse .. | .createTask ..
  | .createUnregister .. | .createDiscount .. | .createClose .. | .unregister .. | .discount ..
  | .checkLast .. | .close .. | .sendStart .. | .sendEncode .. | .sendSnapshot .. | .sendOne ..
  | .sendDone .. | .reap .. => inferInstanceAs (Decidable True)

/-- What `connection.cpp` does by itself: `connect` and `disconnect` are entered by the
handlers, and the host task does nothing else while it is in `send_async`. -/
def Proceeds (s : State) : Connection.Action → Prop
  | .connectLocked .. | .disconnectLocked .. => False
  | .onConnect .. | .onConnectFail .. | .onDisconnect .. | .hostCallback .. | .hostNotify
  | .hostResume => s.hostSend = none
  | _ => True

instance (s : State) : (a : Connection.Action) → Decidable (Proceeds s a)
  | .connectLocked .. | .disconnectLocked .. => inferInstanceAs (Decidable False)
  | .onConnect .. | .onConnectFail .. | .onDisconnect .. | .hostCallback .. | .hostNotify
  | .hostResume => inferInstanceAs (Decidable (_ = _))
  | .connectNotify .. | .connectStopScan .. | .connectIssue .. | .connectUnissued ..
  | .releaseNotify .. | .connectCallback .. | .disconnectCall .. | .established ..
  | .attemptFailed .. | .linkLost .. => inferInstanceAs (Decidable True)

/-- The task of connection `c` is between two steps of its own code. -/
def Ready (s : State) (c : ConnId) (device : DevicePc) : Prop :=
  s.devices c = device ∧ s.backend.tasks c = .idle

instance (s : State) (c : ConnId) (device : DevicePc) : Decidable (Ready s c device) :=
  inferInstanceAs (Decidable (_ ∧ _))

def Guard (s : State) : Action → Prop
  | .server a => Server.Guard s.server a ∧ Returned s a
  | .backend a => Connection.Guard s.backend a ∧ Proceeds s a
  | .request c _ => s.pos c = some .running ∧ Ready s c .idle
  | .refuse c address => s.devices c = .refused address
  | .broadcast c response => s.devices c = .sending response
  | .hostBroadcast response => s.hostSend = some response
  | .sweepStart c => s.pos c = some .teardown ∧ Ready s c .idle
  | .sweepState c i => Ready s c (.sweep i)
  | .readAddress c i => s.devices c = .readAddress i
  | .visit c i address => Ready s c (.visit i address)

instance (s : State) : (a : Action) → Decidable (Guard s a)
  | .server a => inferInstanceAs (Decidable (Server.Guard s.server a ∧ Returned s a))
  | .backend a => inferInstanceAs (Decidable (Connection.Guard s.backend a ∧ Proceeds s a))
  | .request .. | .sweepStart _ => inferInstanceAs (Decidable (_ = _ ∧ Ready ..))
  | .sweepState .. | .visit .. => inferInstanceAs (Decidable (Ready ..))
  | .refuse .. | .broadcast .. | .hostBroadcast _ | .readAddress .. =>
      inferInstanceAs (Decidable (_ = _))

/-- A step of the server; `teardownDone` also leaves `disconnect_all`. -/
def serverStep (s : State) (a : Server.Action) : State :=
  match a with
  | .teardownDone c _ => { s.setDevice c .idle with server := Server.effect s.server a }
  | _ => { s with server := Server.effect s.server a }

def effect (s : State) : Action → State
  | .server a => serverStep s a
  | .backend a => { deliver s a with backend := Connection.effect s.backend a }
  | .request c req => handleDeviceRequest s c req
  | .refuse c address => sendAsync s c (refusal address)
  | .broadcast c response => { s.setDevice c .idle with log := s.log ++ [⟨response, true⟩] }
  | .hostBroadcast response => { s with hostSend := none, log := s.log ++ [⟨response, true⟩] }
  | .sweepStart c => s.setDevice c (.sweep 0)
  | .sweepState c i => sweepState s c i
  | .readAddress c i => s.setDevice c (.visit i (s.backend.slots i).address)
  | .visit c i address => visit s c i address

def system : ActionSystem State Action where
  init := {}
  Guard := Guard
  guardDecidable := inferInstance
  effect := effect

/-! ## The server and the slots inside it -/

section

variable (s : State)

@[simp] theorem sendAsync_server (c : ConnId) (r : Response) : (sendAsync s c r).server = s.server := by
  unfold sendAsync
  split <;> rfl

@[simp] theorem sendAsync_backend (c : ConnId) (r : Response) :
    (sendAsync s c r).backend = s.backend := by
  unfold sendAsync
  split <;> rfl

@[simp] theorem hostSendAsync_server (r : Response) : (hostSendAsync s r).server = s.server := by
  unfold hostSendAsync
  split <;> rfl

@[simp] theorem hostSendAsync_devices (r : Response) : (hostSendAsync s r).devices = s.devices := by
  unfold hostSendAsync
  split <;> rfl

@[simp] theorem deliver_server (a : Connection.Action) : (deliver s a).server = s.server := by
  unfold deliver
  split <;> simp

@[simp] theorem serverStep_server (a : Server.Action) :
    (serverStep s a).server = Server.effect s.server a := by
  unfold serverStep
  split <;> rfl

@[simp] theorem serverStep_backend (a : Server.Action) : (serverStep s a).backend = s.backend := by
  unfold serverStep
  split <;> rfl

/-- What a request does: nothing here, a CONNECT or a DISCONNECT. -/
theorem handleDeviceRequest_cases (c : ConnId) (req : DeviceRequest) :
    handleDeviceRequest s c req = s ∨
    (∃ address addressType, handleDeviceRequest s c req = startConnect s c address addressType) ∨
    ∃ address, handleDeviceRequest s c req =
      { s with backend := Connection.effect s.backend (.disconnectLocked c address) } := by
  unfold handleDeviceRequest
  cases req.requestType with
  | connect | connectV3WithCache | connectV3WithoutCache => exact .inr (.inl ⟨_, _, rfl⟩)
  | disconnect => exact .inr (.inr ⟨_, rfl⟩)
  | pair | unpair | clearCache | unknown => exact .inl rfl

end

/-- Seen from the server, a device handler's step is no step. -/
theorem server_projection : ActionSystem.Projection system Server.system State.server where
  init := rfl
  step := by
    intro s a guard
    cases a with
    | server a => exact .inr ⟨a, guard.1, serverStep_server s a⟩
    | backend a => exact .inl (deliver_server s a)
    | request c req =>
        left
        simp only [system, effect]
        rcases handleDeviceRequest_cases s c req with same | ⟨_, _, next⟩ | ⟨_, next⟩
        · rw [same]
        · rw [next, startConnect, State.setDevice]
        · rw [next]
    | refuse c address => exact .inl (sendAsync_server s c _)
    | broadcast c r | hostBroadcast r | sweepStart c | sweepState c i | readAddress c i
    | visit c i address => exact .inl rfl

/-- Seen from the slots, the server's steps are none, and `connect` and `disconnect` are
entered by a task that is idle. -/
theorem backend_projection : ActionSystem.Projection system Connection.system State.backend where
  init := rfl
  step := by
    intro s a guard
    cases a with
    | server a => exact .inl (serverStep_backend s a)
    | backend a => exact .inr ⟨a, guard.1, rfl⟩
    | request c req =>
        rcases handleDeviceRequest_cases s c req with same | ⟨address, addressType, next⟩ |
          ⟨address, next⟩
        · exact .inl (congrArg State.backend same)
        · refine .inr ⟨.connectLocked c address addressType, guard.2.2, ?_⟩
          simp only [system, effect, next, startConnect, Connection.system]
        · refine .inr ⟨.disconnectLocked c address, guard.2.2, ?_⟩
          simp only [system, effect, next, Connection.system]
    | visit c i address => exact .inr ⟨.disconnectLocked c address, guard.2, rfl⟩
    | refuse c address => exact .inl (sendAsync_backend s c _)
    | broadcast c r | hostBroadcast r | sweepStart c | sweepState c i | readAddress c i =>
        exact .inl rfl

theorem server_reachable {s : State} (path : system.Reachable s) : RegInv s.server :=
  regInv_reachable (server_projection.reachable path)

theorem backend_reachable {s : State} (path : system.Reachable s) :
    Connection.system.Reachable s.backend :=
  backend_projection.reachable path

end NimbleProxy.Api.Devices
