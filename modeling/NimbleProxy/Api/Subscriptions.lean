/-
# Api.Subscriptions -- subscription handlers over the API server

`bt_handlers.cpp` counts subscribers in two atomics. A handler changes the
client's own flag, then the counter, then perhaps calls
`scanner::start_forwarding` or `scanner::stop_forwarding`: three steps, between
which every other task may run. `on_client_disconnect` undoes what the client
added, and `on_last_client_disconnect` stops forwarding once the connection task
has found `g_active_count` at zero.

The state is the server's (`Api.Server`), one `Client` for each connection (the
flags on its task's stack and where its task is inside a handler), the two
counters and `g_forwarding`. The server's own steps run as they are, except that
a connection leaves its dispatch loop, `on_client_disconnect` and
`on_last_client_disconnect` only when the handler concerned has returned.
-/
import NimbleProxy.Api.Registry

namespace NimbleProxy.Api.Subscriptions

open NimbleProxy.Theory NimbleProxy.Api.Server

set_option autoImplicit false

/-! ## State -/

/-- `bt_handlers::ClientSubs`. -/
structure ClientSubs where
  subAdv : Bool := false
  subFree : Bool := false
  deriving DecidableEq

/-- Where a connection task is inside a handler. -/
inductive HandlerPc
  /-- between two requests, or at the start of `on_client_disconnect` -/
  | idle
  /-- about to increment `g_sub_adv_count` -/
  | addAdv
  | start
  /-- about to decrement `g_sub_adv_count`, for an unsubscribe or on leaving -/
  | subAdv (leaving : Bool)
  | stop (leaving : Bool)
  | addFree
  /-- `on_client_disconnect`, about to look at `sub_free` -/
  | leaveFree
  | subFree
  /-- `on_client_disconnect` has returned -/
  | left
  /-- `on_last_client_disconnect` has stopped forwarding -/
  | tornDown
  deriving DecidableEq

structure Client where
  subs : ClientSubs := {}
  handler : HandlerPc := .idle
  deriving DecidableEq

structure State where
  server : Server.State := {}
  clients : ConnId → Client := fun _ => {}
  subAdvCount : Int := 0
  subFreeCount : Int := 0
  /-- the scanner's `g_forwarding` -/
  forwarding : Bool := false

/-- Where connection `c` is. -/
def State.pos (s : State) (c : ConnId) : Option ConnAt :=
  (s.server.conns c).map Prod.fst

def State.setClient (s : State) (c : ConnId) (client : Client) : State :=
  { s with clients := Function.update s.clients c client }

/-! ## The handlers -/

/-- Where a decrement of `g_sub_adv_count` and its `stop_forwarding` return to. -/
def HandlerPc.afterAdv (leaving : Bool) : HandlerPc :=
  if leaving then .leaveFree else .idle

/-- `handle_subscribe_adv` up to the flag. -/
def subscribeAdv (s : State) (c : ConnId) : State :=
  if (s.clients c).subs.subAdv then s
  else s.setClient c ⟨{ (s.clients c).subs with subAdv := true }, .addAdv⟩

/-- `if (g_sub_adv_count.fetch_add(1) == 0) start_forwarding();` up to the call. -/
def addAdv (s : State) (c : ConnId) : State :=
  { s.setClient c ⟨(s.clients c).subs, if s.subAdvCount = 0 then .start else .idle⟩ with
    subAdvCount := s.subAdvCount + 1 }

/-- `scanner::start_forwarding`. -/
def startForwarding (s : State) (c : ConnId) : State :=
  { s.setClient c ⟨(s.clients c).subs, .idle⟩ with forwarding := true }

/-- `handle_unsubscribe_adv` up to the flag. -/
def unsubscribeAdv (s : State) (c : ConnId) : State :=
  if (s.clients c).subs.subAdv then
    s.setClient c ⟨{ (s.clients c).subs with subAdv := false }, .subAdv false⟩
  else s

/-- `if (g_sub_adv_count.fetch_sub(1) == 1) stop_forwarding();` up to the call. -/
def subAdv (s : State) (c : ConnId) (leaving : Bool) : State :=
  { s.setClient c ⟨(s.clients c).subs,
      if s.subAdvCount = 1 then .stop leaving else .afterAdv leaving⟩ with
    subAdvCount := s.subAdvCount - 1 }

/-- `scanner::stop_forwarding`. -/
def stopForwarding (s : State) (c : ConnId) (leaving : Bool) : State :=
  { s.setClient c ⟨(s.clients c).subs, .afterAdv leaving⟩ with forwarding := false }

/-- `handle_subscribe_free` up to the flag. -/
def subscribeFree (s : State) (c : ConnId) : State :=
  if (s.clients c).subs.subFree then s
  else s.setClient c ⟨{ (s.clients c).subs with subFree := true }, .addFree⟩

def addFree (s : State) (c : ConnId) : State :=
  { s.setClient c ⟨(s.clients c).subs, .idle⟩ with subFreeCount := s.subFreeCount + 1 }

/-- The first half of `on_client_disconnect`, up to the flag. -/
def leaveAdv (s : State) (c : ConnId) : State :=
  if (s.clients c).subs.subAdv then
    s.setClient c ⟨{ (s.clients c).subs with subAdv := false }, .subAdv true⟩
  else s.setClient c ⟨(s.clients c).subs, .leaveFree⟩

/-- The second half of `on_client_disconnect`, up to the flag. -/
def leaveFree (s : State) (c : ConnId) : State :=
  if (s.clients c).subs.subFree then
    s.setClient c ⟨{ (s.clients c).subs with subFree := false }, .subFree⟩
  else s.setClient c ⟨(s.clients c).subs, .left⟩

def subFree (s : State) (c : ConnId) : State :=
  { s.setClient c ⟨(s.clients c).subs, .left⟩ with subFreeCount := s.subFreeCount - 1 }

/-- The `stop_forwarding` of `on_last_client_disconnect`. -/
def teardownStop (s : State) (c : ConnId) : State :=
  { s.setClient c ⟨(s.clients c).subs, .tornDown⟩ with forwarding := false }

/-! ## The system -/

inductive Action
  | server (a : Server.Action)
  | subscribeAdv (c : ConnId)
  | addAdv (c : ConnId)
  | startForwarding (c : ConnId)
  | unsubscribeAdv (c : ConnId)
  | subAdv (c : ConnId) (leaving : Bool)
  | stopForwarding (c : ConnId) (leaving : Bool)
  | subscribeFree (c : ConnId)
  | addFree (c : ConnId)
  | leaveAdv (c : ConnId)
  | leaveFree (c : ConnId)
  | subFree (c : ConnId)
  | teardownStop (c : ConnId)

/-- A connection goes on only when its handler has returned. -/
def Returned (s : State) : Server.Action → Prop
  | .endLoop c _ => (s.clients c).handler = .idle
  | .released c _ => (s.clients c).handler = .left
  | .teardownDone c _ => (s.clients c).handler = .tornDown
  | _ => True

instance (s : State) : (a : Server.Action) → Decidable (Returned s a)
  | .endLoop .. | .released .. | .teardownDone .. => inferInstanceAs (Decidable (_ = _))
  | .accept .. | .registerClient .. | .countClient .. | .refuse .. | .createTask ..
  | .createUnregister .. | .createDiscount .. | .createClose .. | .unregister .. | .discount ..
  | .checkLast .. | .close .. | .sendStart .. | .sendEncode .. | .sendSnapshot .. | .sendOne ..
  | .sendDone .. | .reap .. => inferInstanceAs (Decidable True)

def Guard (s : State) : Action → Prop
  | .server a => Server.Guard s.server a ∧ Returned s a
  | .subscribeAdv c => s.pos c = some .running ∧ (s.clients c).handler = .idle
  | .unsubscribeAdv c => s.pos c = some .running ∧ (s.clients c).handler = .idle
  | .subscribeFree c => s.pos c = some .running ∧ (s.clients c).handler = .idle
  | .leaveAdv c => s.pos c = some .releasing ∧ (s.clients c).handler = .idle
  | .teardownStop c => s.pos c = some .teardown ∧ (s.clients c).handler = .left
  | .addAdv c => (s.clients c).handler = .addAdv
  | .startForwarding c => (s.clients c).handler = .start
  | .subAdv c leaving => (s.clients c).handler = .subAdv leaving
  | .stopForwarding c leaving => (s.clients c).handler = .stop leaving
  | .addFree c => (s.clients c).handler = .addFree
  | .leaveFree c => (s.clients c).handler = .leaveFree
  | .subFree c => (s.clients c).handler = .subFree

instance (s : State) : (a : Action) → Decidable (Guard s a)
  | .server a => inferInstanceAs (Decidable (Server.Guard s.server a ∧ Returned s a))
  | .subscribeAdv _ | .unsubscribeAdv _ | .subscribeFree _ | .leaveAdv _ | .teardownStop _ =>
      inferInstanceAs (Decidable (_ = _ ∧ _ = _))
  | .addAdv _ | .startForwarding _ | .subAdv .. | .stopForwarding .. | .addFree _ | .leaveFree _
  | .subFree _ => inferInstanceAs (Decidable (_ = _))

def effect (s : State) : Action → State
  | .server a => { s with server := Server.effect s.server a }
  | .subscribeAdv c => subscribeAdv s c
  | .addAdv c => addAdv s c
  | .startForwarding c => startForwarding s c
  | .unsubscribeAdv c => unsubscribeAdv s c
  | .subAdv c leaving => subAdv s c leaving
  | .stopForwarding c leaving => stopForwarding s c leaving
  | .subscribeFree c => subscribeFree s c
  | .addFree c => addFree s c
  | .leaveAdv c => leaveAdv s c
  | .leaveFree c => leaveFree s c
  | .subFree c => subFree s c
  | .teardownStop c => teardownStop s c

def system : ActionSystem State Action where
  init := {}
  Guard := Guard
  guardDecidable := inferInstance
  effect := effect

/-- Seen from the server, a handler's step is no step. -/
theorem server_projection : ActionSystem.Projection system Server.system State.server where
  init := rfl
  step := by
    intro s a guard
    cases a with
    | server a => exact .inr ⟨a, guard.1, rfl⟩
    | subscribeAdv c | unsubscribeAdv c | subscribeFree c | leaveAdv c | leaveFree c =>
        left
        simp only [system, effect, subscribeAdv, unsubscribeAdv, subscribeFree, leaveAdv, leaveFree]
        split <;> rfl
    | addAdv c | startForwarding c | subAdv c leaving | stopForwarding c leaving | addFree c
    | subFree c | teardownStop c => exact .inl rfl

theorem server_reachable {s : State} (path : system.Reachable s) : RegInv s.server :=
  regInv_reachable (server_projection.reachable path)

end NimbleProxy.Api.Subscriptions
