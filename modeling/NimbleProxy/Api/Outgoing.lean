/-
# Api.Outgoing -- the bytes written to the clients' sockets

Puts the frames of `Api.FrameCodec` under the server: `g_tx_mutex`, the staging
buffer `g_tx_buf` and the loop of `send_locked_to`, one `::send` at a time. The
mutex is held by a task in `send_async` (`Server.State.txHolder`) or by a
connection task in `dispatch_one` (`replying`), which answers a handshake request
on its own socket.

A `::send` takes some of the bytes that are left, at least one, or fails; on a
socket that is closed or shut down it fails. A connection is a number of
`Api.Server`, so a byte written to an fd goes to whoever has the fd then.

`earlier`, `delivered`, `cut` and `Loop.begun` are bookkeeping that no step reads:
the messages in the order in which their senders took the mutex, those of them
that each connection got in full, and whether a frame to it broke off.
-/
import NimbleProxy.Api.Registry
import NimbleProxy.Api.FrameCodec

namespace NimbleProxy.Api.Outgoing

open NimbleProxy.Theory NimbleProxy.Api.Server
open NimbleProxy.Api.FrameCodec (Message maxHeaderLen prependHeader)

set_option autoImplicit false

/-- `proxy::MAX_MESSAGE_SIZE`, the room for a payload in `g_tx_buf`. -/
abbrev maxMessageSize : Nat := 2048

/-! ## State -/

/-- The locals of `send_locked_to`. -/
structure Loop where
  fd : Fd
  start : Nat
  total : Nat
  sent : Nat
  /-- bookkeeping: whose socket took the first byte -/
  begun : Option ConnId
  deriving DecidableEq

structure State where
  server : Server.State := {}
  /-- the connection task that holds `g_tx_mutex`, and `close_after` of its answer -/
  replying : Option (ConnId × Bool) := none
  /-- `dispatch_one` has returned false -/
  leaving : ConnId → Bool := fun _ => false
  txBuf : Memory := fun _ => 0
  /-- the message of the task that holds the mutex: its `msg_type`, and the payload as it
  was encoded; what is sent is taken from `txBuf` -/
  current : Option Message := none
  loop : Option Loop := none
  /-- the socket was shut down -/
  shut : ConnId → Bool := fun _ => false
  /-- what the kernel took for a connection -/
  streams : ConnId → List UInt8 := fun _ => []
  earlier : List Message := []
  delivered : ConnId → List Message := fun _ => []
  cut : ConnId → Bool := fun _ => false

/-- All messages so far, in the order in which their senders took `g_tx_mutex`. -/
def State.txLog (s : State) : List Message :=
  s.earlier ++ s.current.toList

/-- `xSemaphoreGive(g_tx_mutex)`. -/
def State.giveTx (s : State) : State :=
  { s with earlier := s.txLog, current := none }

/-! ## send_locked_to -/

/-- Who calls `send_locked_to`: a broadcast with these fds still to come, or a connection
task with its answer. -/
inductive Caller
  | broadcast (t : SenderId) (rest : List Fd) (dead : List Dead)
  | reply (c : ConnId) (closeAfter : Bool)
  deriving DecidableEq

/-- `caller` is at its call for `fd`. -/
def Calls (s : State) (fd : Fd) : Caller → Prop
  | .broadcast t rest dead => s.server.senders t = .sending (fd :: rest) dead
  | .reply c closeAfter => s.replying = some (c, closeAfter) ∧ s.server.conns c = some (.running, fd)

instance (s : State) (fd : Fd) : (caller : Caller) → Decidable (Calls s fd caller)
  | .broadcast .. => inferInstanceAs (Decidable (_ = _))
  | .reply .. => inferInstanceAs (Decidable (_ ∧ _))

/-- The start of `send_locked_to`, up to its loop. -/
def sendLockedTo (s : State) (fd : Fd) (m : Message) : State :=
  let (start, txBuf) := prependHeader s.txBuf m.type m.payload.length
  { s with txBuf, loop := some ⟨fd, start, (maxHeaderLen - start) + m.payload.length, 0, none⟩ }

/-- `send_locked_to` returned `ok`. -/
def returned (s : State) (fd : Fd) (ok : Bool) : Caller → State
  | .broadcast t rest dead =>
      { s with loop := none, server := Server.effect s.server (.sendOne t fd rest dead ok) }
  | .reply c closeAfter =>
      { s.giveTx with
        loop := none
        replying := none
        leaving := Function.update s.leaving c (!ok || closeAfter) }

/-- One `::send` by which connection `c` gets the next `k` bytes. -/
def sendBytes (s : State) (l : Loop) (c : ConnId) (k : Nat) : State :=
  { s with
    streams := Function.update s.streams c (s.streams c ++ s.txBuf.load (l.start + l.sent) k)
    loop := some { l with sent := l.sent + k, begun := some (l.begun.getD c) } }

/-- The loop of `send_locked_to` after a `::send` that took `k` bytes. -/
def sent (s : State) (caller : Caller) (l : Loop) (c : ConnId) (m : Message) (k : Nat) : State :=
  let s := sendBytes s l c k
  if l.sent + k < l.total then s
  else returned { s with delivered := Function.update s.delivered c (s.delivered c ++ [m]) } l.fd true
    caller

/-- A `::send` that failed; part of the frame may have been sent. -/
def failed (s : State) (caller : Caller) (l : Loop) : State :=
  returned { s with cut := fun c => s.cut c || decide (l.begun = some c) } l.fd false caller

/-! ## The system -/

inductive Action
  | server (a : Server.Action)
  /-- `send_async` takes the mutex and encodes a message -/
  | encode (t : SenderId) (m : Message)
  /-- `dispatch_one` takes the mutex and has a response to a handshake request -/
  | reply (c : ConnId) (fd : Fd) (m : Message) (closeAfter : Bool)
  | sendLockedTo (caller : Caller) (fd : Fd) (m : Message)
  | sent (caller : Caller) (l : Loop) (c : ConnId) (m : Message) (k : Nat)
  | failed (caller : Caller) (l : Loop)

/-- The steps of the server beside sending: `send_async` takes the mutex here only to find
that there is nothing to send, and a connection task ends its loop only when it has let go
of the mutex. -/
def Beside (s : State) : Server.Action → Prop
  | .sendEncode _ nonempty => nonempty = false ∧ s.replying = none
  | .sendOne .. => False
  | .endLoop c _ => s.replying.map Prod.fst ≠ some c
  | _ => True

instance (s : State) : (a : Server.Action) → Decidable (Beside s a)
  | .sendEncode .. => inferInstanceAs (Decidable (_ = _ ∧ _ = _))
  | .sendOne .. => inferInstanceAs (Decidable False)
  | .endLoop .. => inferInstanceAs (Decidable (_ ≠ _))
  | .released .. | .accept .. | .registerClient .. | .countClient .. | .refuse .. | .createTask ..
  | .createUnregister .. | .createDiscount .. | .createClose .. | .unregister .. | .discount ..
  | .checkLast .. | .close .. | .sendStart .. | .sendSnapshot .. | .sendDone ..
  | .reap .. | .teardownDone .. => inferInstanceAs (Decidable True)

/-- Nobody holds `g_tx_mutex`. -/
def Unlocked (s : State) : Prop :=
  s.server.txHolder = none ∧ s.replying = none

instance (s : State) : Decidable (Unlocked s) :=
  inferInstanceAs (Decidable (_ ∧ _))

def Guard (s : State) : Action → Prop
  | .server a => Server.Guard s.server a ∧ Beside s a
  | .encode t m => s.server.senders t = .begin ∧ Unlocked s ∧ m.payload ≠ [] ∧
      m.payload.length ≤ maxMessageSize
  | .reply c fd m _ => s.server.conns c = some (.running, fd) ∧ s.leaving c = false ∧ Unlocked s ∧
      m.type ≠ 0 ∧ m.payload.length ≤ maxMessageSize
  | .sendLockedTo caller fd m => Calls s fd caller ∧ s.loop = none ∧ s.current = some m
  | .sent caller l c m k => Calls s l.fd caller ∧ s.loop = some l ∧ s.current = some m ∧
      s.server.openFds l.fd = some c ∧ s.shut c = false ∧ 0 < k ∧ l.sent + k ≤ l.total
  | .failed caller l => Calls s l.fd caller ∧ s.loop = some l

instance (s : State) : (a : Action) → Decidable (Guard s a)
  | .server a => inferInstanceAs (Decidable (Server.Guard s.server a ∧ Beside s a))
  | .encode .. => inferInstanceAs (Decidable (_ = _ ∧ Unlocked s ∧ _ ≠ _ ∧ _ ≤ _))
  | .reply .. => inferInstanceAs (Decidable (_ = _ ∧ _ = _ ∧ Unlocked s ∧ _ ≠ _ ∧ _ ≤ _))
  | .sendLockedTo .. => inferInstanceAs (Decidable (Calls .. ∧ _ = _ ∧ _ = _))
  | .sent .. => inferInstanceAs (Decidable (Calls .. ∧ _ = _ ∧ _ = _ ∧ _ = _ ∧ _ = _ ∧ _ < _ ∧ _ ≤ _))
  | .failed .. => inferInstanceAs (Decidable (Calls .. ∧ _ = _))

/-- The sockets a step of the server shuts down. -/
def shutsDown (s : State) (c : ConnId) : Server.Action → Bool
  | .reap _ dead => (reapsOf s.server dead).any fun r => decide (r.hit = some c)
  | _ => false

/-- A step of the server; `sendDone` lets go of the mutex. -/
def serverStep (s : State) (a : Server.Action) : State :=
  let after : State := match a with
    | .sendDone _ _ => s.giveTx
    | _ => s
  { after with
    server := Server.effect s.server a
    shut := fun c => s.shut c || shutsDown s c a }

def effect (s : State) : Action → State
  | .server a => serverStep s a
  | .encode t m =>
      { s with
        server := Server.effect s.server (.sendEncode t true)
        txBuf := s.txBuf.store maxHeaderLen m.payload
        current := some m }
  | .reply c _ m closeAfter =>
      { s with
        replying := some (c, closeAfter)
        txBuf := s.txBuf.store maxHeaderLen m.payload
        current := some m }
  | .sendLockedTo _ fd m => sendLockedTo s fd m
  | .sent caller l c m k => sent s caller l c m k
  | .failed caller l => failed s caller l

def system : ActionSystem State Action where
  init := {}
  Guard := Guard
  guardDecidable := inferInstance
  effect := effect

end NimbleProxy.Api.Outgoing
