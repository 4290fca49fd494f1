/-
# Api.Server -- accepting, registering, serving and dropping API clients

The transition system of `api_server.cpp`: `listener_task`, any number of
`connection_task`s, and `send_async` run by any task. A connection is a number
(`ConnId`) that is never used again; its file descriptor is a number the kernel
may hand out again once it is closed (`openFds`). The position of a connection
(`ConnAt`) is the program counter of whichever task works on it: the listener
until `xTaskCreate` succeeded, then its own task.

`register_client` and `unregister_client` change the table under
`g_clients_mutex` and the atomic `g_active_count` in a step of its own. In
`send_async` the snapshot of the table, each `send_locked_to` and the re-check
with its shutdowns are separate steps; the first two run while the sender holds
`g_tx_mutex`.

What a connection does between `running` and `releasing` (its requests), in
`releasing` (`on_client_disconnect`) and in `teardown`
(`on_last_client_disconnect`) is added by the systems built over this one.
-/
import NimbleProxy.Theory.ActionSystem
import NimbleProxy.Theory.Tally
import Mathlib.Data.List.FinRange

namespace NimbleProxy.Api.Server

open NimbleProxy.Theory

set_option autoImplicit false

/-- `proxy::MAX_API_CLIENTS`. -/
abbrev maxApiClients : Nat := 4

abbrev Fd := Nat
abbrev ConnId := Nat
abbrev SenderId := Nat

/-! ## The table of client fds -/

/-- `g_client_fds`; an unused entry (`-1`) is `none`. -/
abbrev FdTable := Fin maxApiClients → Option Fd

namespace FdTable

/-- The loop of `register_client`: the first unused entry takes `fd`. -/
def enter (fds : FdTable) (fd : Fd) : Option FdTable :=
  ((List.finRange maxApiClients).find? fun i => decide (fds i = none)).map fun i =>
    Function.update fds i (some fd)

/-- The loop of `unregister_client`: the first entry with `fd` is cleared. -/
def clear (fds : FdTable) (fd : Fd) : FdTable :=
  match (List.finRange maxApiClients).find? fun i => decide (fds i = some fd) with
  | some i => Function.update fds i none
  | none => fds

/-- The fds in use, in table order. -/
def snapshot (fds : FdTable) : List Fd :=
  (List.finRange maxApiClients).filterMap fds

/-- The number of entries in use. -/
def registered (fds : FdTable) : Nat :=
  tally Finset.univ fun i => (fds i).isSome = true

variable {fds fds' : FdTable} {fd : Fd}

theorem enter_some (entered : fds.enter fd = some fds') :
    ∃ i, fds i = none ∧ fds' = Function.update fds i (some fd) := by
  simp only [enter, Option.map_eq_some_iff] at entered
  obtain ⟨i, found, rfl⟩ := entered
  exact ⟨i, by simpa using List.find?_some found, rfl⟩

theorem clear_of_entry {i : Fin maxApiClients} (entry : fds i = some fd)
    (once : ∀ i j fd, fds i = some fd → fds j = some fd → i = j) :
    fds.clear fd = Function.update fds i none := by
  unfold clear
  cases found : (List.finRange maxApiClients).find? fun i => decide (fds i = some fd) with
  | none =>
      have absent := List.find?_eq_none.mp found i (List.mem_finRange i)
      simp [entry] at absent
  | some j =>
      have entryJ : fds j = some fd := by simpa using List.find?_some found
      simp only [once j i fd entryJ entry]

theorem mem_snapshot : fd ∈ fds.snapshot ↔ ∃ i, fds i = some fd := by
  simp [snapshot]

theorem registered_le (fds : FdTable) : fds.registered ≤ maxApiClients := by
  unfold registered tally
  exact (Finset.card_le_univ _).trans (by simp)

/-- Setting one entry moves the number of entries by that entry. -/
theorem registered_update (fds : FdTable) (i : Fin maxApiClients) (entry : Option Fd) :
    registered (Function.update fds i entry) + (if (fds i).isSome = true then 1 else 0) =
      fds.registered + if entry.isSome = true then 1 else 0 := by
  have moved := tally_change (p := fun i => (fds i).isSome = true)
    (q := fun j => (Function.update fds i entry j).isSome = true) (Finset.mem_univ i) (by
      intro j other
      simp only [Function.update_of_ne other])
  simp only [Function.update_self] at moved
  exact moved

end FdTable

/-! ## State -/

/-- Where a connection is: in the hands of the listener, then of its own task. -/
inductive ConnAt
  /-- accepted; about to take the lock in `register_client` -/
  | accepted
  /-- entered in the table; about to count -/
  | counting
  /-- the table is full; about to close -/
  | refused
  | creating
  /-- `xTaskCreate` failed; about to `unregister_client` -/
  | createFailed
  | createDiscount
  | createClose
  /-- in the dispatch loop -/
  | running
  /-- in `on_client_disconnect` -/
  | releasing
  | unregistering
  | discounting
  /-- about to compare `g_active_count` with zero -/
  | checkingLast
  /-- in `on_last_client_disconnect` -/
  | teardown
  | closing
  deriving DecidableEq

namespace ConnAt

/-- The fd of a connection here is in the table. -/
def registered : ConnAt → Bool
  | .counting | .creating | .createFailed | .running | .releasing | .unregistering => true
  | _ => false

/-- A connection here is counted in `g_active_count`. -/
def counted : ConnAt → Bool
  | .creating | .createFailed | .createDiscount | .running | .releasing | .unregistering
  | .discounting => true
  | _ => false

/-- The listener works on a connection here. -/
def ofListener : ConnAt → Bool
  | .accepted | .counting | .refused | .creating | .createFailed | .createDiscount
  | .createClose => true
  | _ => false

end ConnAt

/-- A failed send: the fd it was made on and, as bookkeeping, whose socket that was. -/
structure Dead where
  fd : Fd
  guilty : Option ConnId
  deriving DecidableEq

/-- Where a task is inside `send_async`. -/
inductive SenderPc
  | idle
  /-- a client is active; about to take `g_tx_mutex` and encode -/
  | begin
  | snapshot
  /-- the fds still to send to, and the ones that failed -/
  | sending (rest : List Fd) (dead : List Dead)
  /-- `g_tx_mutex` released; about to re-check the failed fds -/
  | reaping (dead : List Dead)
  deriving DecidableEq

def SenderPc.dead : SenderPc → List Dead
  | .sending _ dead => dead
  | .reaping dead => dead
  | _ => []

/-- A `shutdown` issued by `send_async`: for a failed send, on whose socket. -/
structure Reap where
  dead : Dead
  hit : Option ConnId
  deriving DecidableEq

structure State where
  clientFds : FdTable := fun _ => none
  activeCount : UInt8 := 0
  /-- the kernel's open sockets -/
  openFds : Fd → Option ConnId := fun _ => none
  nextConn : ConnId := 0
  conns : ConnId → Option (ConnAt × Fd) := fun _ => none
  /-- the connection the listener works on; `none` while it waits in `accept` -/
  listener : Option ConnId := none
  senders : SenderId → SenderPc := fun _ => .idle
  txHolder : Option SenderId := none
  reaps : List Reap := []

/-- Connection `c` moves on to `pos`. -/
def State.moveTo (s : State) (c : ConnId) (pos : ConnAt) (fd : Fd) : State :=
  { s with conns := Function.update s.conns c (some (pos, fd)) }

/-- `close(fd)`; the connection is gone. -/
def State.closeConn (s : State) (c : ConnId) (fd : Fd) : State :=
  { s with
    conns := Function.update s.conns c none
    openFds := Function.update s.openFds fd none }

/-! ## Actions -/

/-- `accept` returns `fd`. -/
def accept (s : State) (fd : Fd) : State :=
  { s with
    openFds := Function.update s.openFds fd (some s.nextConn)
    conns := Function.update s.conns s.nextConn (some (.accepted, fd))
    listener := some s.nextConn
    nextConn := s.nextConn + 1 }

/-- The locked section of `register_client`. -/
def registerClient (s : State) (c : ConnId) (fd : Fd) : State :=
  match s.clientFds.enter fd with
  | some fds => { s.moveTo c .counting fd with clientFds := fds }
  | none => s.moveTo c .refused fd

/-- The locked section of `unregister_client`; the caller goes on to discount. -/
def unregisterClient (s : State) (c : ConnId) (fd : Fd) (next : ConnAt) : State :=
  { s.moveTo c next fd with clientFds := s.clientFds.clear fd }

/-- `xTaskCreate`. -/
def createTask (s : State) (c : ConnId) (fd : Fd) (created : Bool) : State :=
  if created then { s.moveTo c .running fd with listener := none }
  else s.moveTo c .createFailed fd

/-- `g_active_count.load() == 0`? -/
def checkLast (s : State) (c : ConnId) (fd : Fd) : State :=
  s.moveTo c (if s.activeCount = 0 then .teardown else .closing) fd

/-- One `send_locked_to` of the broadcast. -/
def sendOne (s : State) (t : SenderId) (fd : Fd) (rest : List Fd) (dead : List Dead) (sent : Bool) :
    State :=
  { s with
    senders := Function.update s.senders t
      (.sending rest (if sent then dead else dead ++ [⟨fd, s.openFds fd⟩])) }

/-- The re-check under `g_clients_mutex`: the shutdowns it issues. -/
def reapsOf (s : State) (dead : List Dead) : List Reap :=
  (dead.filter fun d => decide (d.fd ∈ s.clientFds.snapshot)).map fun d => ⟨d, s.openFds d.fd⟩

inductive Action
  | accept (fd : Fd)
  | registerClient (c : ConnId) (fd : Fd)
  | countClient (c : ConnId) (fd : Fd)
  | refuse (c : ConnId) (fd : Fd)
  | createTask (c : ConnId) (fd : Fd) (created : Bool)
  | createUnregister (c : ConnId) (fd : Fd)
  | createDiscount (c : ConnId) (fd : Fd)
  | createClose (c : ConnId) (fd : Fd)
  /-- `dispatch_one` returned false -/
  | endLoop (c : ConnId) (fd : Fd)
  /-- `on_client_disconnect` returned -/
  | released (c : ConnId) (fd : Fd)
  | unregister (c : ConnId) (fd : Fd)
  | discount (c : ConnId) (fd : Fd)
  | checkLast (c : ConnId) (fd : Fd)
  /-- `on_last_client_disconnect` returned -/
  | teardownDone (c : ConnId) (fd : Fd)
  | close (c : ConnId) (fd : Fd)
  /-- `send_async` finds an active client -/
  | sendStart (t : SenderId)
  /-- takes `g_tx_mutex` and encodes; a message of length zero is not sent -/
  | sendEncode (t : SenderId) (nonempty : Bool)
  | sendSnapshot (t : SenderId)
  | sendOne (t : SenderId) (fd : Fd) (rest : List Fd) (dead : List Dead) (sent : Bool)
  | sendDone (t : SenderId) (dead : List Dead)
  | reap (t : SenderId) (dead : List Dead)

def Guard (s : State) : Action → Prop
  | .accept fd => s.listener = none ∧ s.openFds fd = none
  | .registerClient c fd => s.conns c = some (.accepted, fd)
  | .countClient c fd => s.conns c = some (.counting, fd)
  | .refuse c fd => s.conns c = some (.refused, fd)
  | .createTask c fd _ => s.conns c = some (.creating, fd)
  | .createUnregister c fd => s.conns c = some (.createFailed, fd)
  | .createDiscount c fd => s.conns c = some (.createDiscount, fd)
  | .createClose c fd => s.conns c = some (.createClose, fd)
  | .endLoop c fd => s.conns c = some (.running, fd)
  | .released c fd => s.conns c = some (.releasing, fd)
  | .unregister c fd => s.conns c = some (.unregistering, fd)
  | .discount c fd => s.conns c = some (.discounting, fd)
  | .checkLast c fd => s.conns c = some (.checkingLast, fd)
  | .teardownDone c fd => s.conns c = some (.teardown, fd)
  | .close c fd => s.conns c = some (.closing, fd)
  | .sendStart t => s.senders t = .idle ∧ s.activeCount ≠ 0
  | .sendEncode t _ => s.senders t = .begin ∧ s.txHolder = none
  | .sendSnapshot t => s.senders t = .snapshot ∧ s.txHolder = some t
  -- a send on a closed fd fails
  | .sendOne t fd rest dead sent => s.senders t = .sending (fd :: rest) dead ∧
      (sent = true → s.openFds fd ≠ none)
  | .sendDone t dead => s.senders t = .sending [] dead ∧ s.txHolder = some t
  | .reap t dead => s.senders t = .reaping dead

instance (s : State) : (a : Action) → Decidable (Guard s a)
  | .registerClient .. | .countClient .. | .refuse .. | .createTask .. | .createUnregister ..
  | .createDiscount .. | .createClose .. | .endLoop .. | .released .. | .unregister ..
  | .discount .. | .checkLast .. | .teardownDone .. | .close .. | .reap .. =>
      inferInstanceAs (Decidable (_ = _))
  | .accept _ | .sendEncode .. | .sendSnapshot _ | .sendDone .. =>
      inferInstanceAs (Decidable (_ = _ ∧ _ = _))
  | .sendStart _ => inferInstanceAs (Decidable (_ = _ ∧ _ ≠ _))
  | .sendOne _ fd _ _ sent =>
      inferInstanceAs (Decidable (_ = _ ∧ (sent = true → s.openFds fd ≠ none)))

def effect (s : State) : Action → State
  | .accept fd => accept s fd
  | .registerClient c fd => registerClient s c fd
  | .countClient c fd => { s.moveTo c .creating fd with activeCount := s.activeCount + 1 }
  | .refuse c fd => { s.closeConn c fd with listener := none }
  | .createTask c fd created => createTask s c fd created
  | .createUnregister c fd => unregisterClient s c fd .createDiscount
  | .createDiscount c fd => { s.moveTo c .createClose fd with activeCount := s.activeCount - 1 }
  | .createClose c fd => { s.closeConn c fd with listener := none }
  | .endLoop c fd => s.moveTo c .releasing fd
  | .released c fd => s.moveTo c .unregistering fd
  | .unregister c fd => unregisterClient s c fd .discounting
  | .discount c fd => { s.moveTo c .checkingLast fd with activeCount := s.activeCount - 1 }
  | .checkLast c fd => checkLast s c fd
  | .teardownDone c fd => s.moveTo c .closing fd
  | .close c fd => s.closeConn c fd
  | .sendStart t => { s with senders := Function.update s.senders t .begin }
  | .sendEncode t nonempty =>
      if nonempty then
        { s with senders := Function.update s.senders t .snapshot, txHolder := some t }
      else { s with senders := Function.update s.senders t .idle }
  | .sendSnapshot t =>
      { s with senders := Function.update s.senders t (.sending s.clientFds.snapshot []) }
  | .sendOne t fd rest dead sent => sendOne s t fd rest dead sent
  | .sendDone t dead =>
      { s with
        senders := Function.update s.senders t (if dead = [] then .idle else .reaping dead)
        txHolder := none }
  | .reap t dead =>
      { s with
        senders := Function.update s.senders t .idle
        reaps := s.reaps ++ reapsOf s dead }

def system : ActionSystem State Action where
  init := {}
  Guard := Guard
  guardDecidable := inferInstance
  effect := effect

end NimbleProxy.Api.Server
