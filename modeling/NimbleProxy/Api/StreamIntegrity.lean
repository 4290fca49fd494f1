/-
# Api.StreamIntegrity -- what a client's byte stream is made of

Every byte a client gets is part of a frame that `send_locked_to` ships from the
staging buffer while its caller holds `g_tx_mutex`, so frames do not mix and come
in the order in which their senders took the mutex. A frame may break off when a
`::send` fails. That is harmless as long as nothing is written behind it, and two
things can go wrong there:

* a failed broadcast shuts the socket down only after it has let go of the mutex,
  and a failed answer only makes its connection task leave: until then another
  sender may take the mutex and write a whole frame behind the broken one;
* the connection may close in the middle of a frame and the kernel may hand the fd
  to a new client, who then gets the rest of the frame.

`Clean` excludes the two; `outgoing_stream_integrity` is about every run of clean
steps.
-/
import NimbleProxy.Api.Outgoing

namespace NimbleProxy.Api.Server

open NimbleProxy.Theory ActionSystem

set_option autoImplicit false

/-! ## Sockets, senders and the mutex -/

/-- A task here is in `send_async` and holds `g_tx_mutex`. -/
def SenderPc.holdsTx : SenderPc → Bool
  | .snapshot | .sending _ _ => true
  | _ => false

/-- The fds a broadcast has still to send to. -/
def SenderPc.pending : SenderPc → List Fd
  | .sending rest _ => rest
  | _ => []

structure SendInv (s : State) : Prop where
  opened : ∀ fd c, s.openFds fd = some c → ∃ pos, s.conns c = some (pos, fd)
  holder : ∀ t, (s.senders t).holdsTx = true ↔ s.txHolder = some t
  nodup : ∀ t, (s.senders t).pending.Nodup

section

variable {s s' : State} {c : ConnId} {fd : Fd} {pos pos' : ConnAt}

theorem FdTable.nodup_snapshot {fds : FdTable}
    (once : ∀ i j fd, fds i = some fd → fds j = some fd → i = j) : fds.snapshot.Nodup := by
  unfold FdTable.snapshot
  refine List.Nodup.filterMap ?_ (List.nodup_finRange _)
  intro i j fd entryI entryJ
  exact once i j fd entryI entryJ

/-- A connection has one fd. -/
theorem SendInv.fd_inj (inv : SendInv s) {fd' : Fd} (first : s.openFds fd = some c)
    (second : s.openFds fd' = some c) : fd = fd' := by
  obtain ⟨pos, held⟩ := inv.opened fd c first
  obtain ⟨pos', held'⟩ := inv.opened fd' c second
  exact (Prod.mk.inj (Option.some.inj (held.symm.trans held'))).2

/-- A step that moves a connection and leaves sockets and senders alone. -/
theorem SendInv.move (inv : SendInv s) (held : s.conns c = some (pos, fd))
    (conns : s'.conns = Function.update s.conns c (some (pos', fd)))
    (openFds : s'.openFds = s.openFds) (senders : s'.senders = s.senders)
    (txHolder : s'.txHolder = s.txHolder) : SendInv s' := by
  refine ⟨?_, by rw [senders, txHolder]; exact inv.holder, by rw [senders]; exact inv.nodup⟩
  intro fdD d isOpen
  rw [openFds] at isOpen
  obtain ⟨posD, heldD⟩ := inv.opened fdD d isOpen
  by_cases here : d = c
  · subst here
    obtain ⟨-, rfl⟩ := Prod.mk.inj (Option.some.inj (heldD.symm.trans held))
    exact ⟨pos', by rw [conns, Function.update_self]⟩
  · exact ⟨posD, by rw [conns, Function.update_of_ne here]; exact heldD⟩

theorem SendInv.close (inv : SendInv s) (held : s.conns c = some (pos, fd))
    (conns : s'.conns = Function.update s.conns c none)
    (openFds : s'.openFds = Function.update s.openFds fd none) (senders : s'.senders = s.senders)
    (txHolder : s'.txHolder = s.txHolder) : SendInv s' := by
  refine ⟨?_, by rw [senders, txHolder]; exact inv.holder, by rw [senders]; exact inv.nodup⟩
  intro fdD d isOpen
  rw [openFds, Function.update_apply] at isOpen
  split at isOpen
  · cases isOpen
  · rename_i otherFd
    obtain ⟨posD, heldD⟩ := inv.opened fdD d isOpen
    have other : d ≠ c := by
      rintro rfl
      exact otherFd (Prod.mk.inj (Option.some.inj (heldD.symm.trans held))).2
    exact ⟨posD, by rw [conns, Function.update_of_ne other]; exact heldD⟩

theorem SendInv.accept (reg : RegInv s) (inv : SendInv s) (fd : Fd) : SendInv (accept s fd) := by
  refine ⟨?_, inv.holder, inv.nodup⟩
  intro fdD d isOpen
  simp only [Server.accept, Function.update_apply] at isOpen
  split at isOpen
  · rename_i here
    refine ⟨.accepted, ?_⟩
    simp only [Server.accept, ← Option.some.inj isOpen, here, Function.update_self]
  · obtain ⟨posD, heldD⟩ := inv.opened fdD d isOpen
    exact ⟨posD, by rw [accept_conns (reg.known d posD fdD heldD)]; exact heldD⟩

/-- A sender moves on; `holder` is who has the mutex then. -/
theorem SendInv.sender (inv : SendInv s) (t : SenderId) (pc : SenderPc) (nodup : pc.pending.Nodup)
    (conns : s'.conns = s.conns) (openFds : s'.openFds = s.openFds)
    (senders : s'.senders = Function.update s.senders t pc)
    (mine : pc.holdsTx = true ↔ s'.txHolder = some t)
    (others : ∀ u, u ≠ t → (s'.txHolder = some u ↔ s.txHolder = some u)) : SendInv s' := by
  refine ⟨by rw [openFds, conns]; exact inv.opened, ?_, ?_⟩
  · intro u
    by_cases here : u = t
    · subst here
      rw [senders, Function.update_self]
      exact mine
    · rw [senders, Function.update_of_ne here, others u here]
      exact inv.holder u
  · intro u
    by_cases here : u = t
    · subst here
      rw [senders, Function.update_self]
      exact nodup
    · rw [senders, Function.update_of_ne here]
      exact inv.nodup u

theorem sendInv_step (reg : RegInv s) (inv : SendInv s) (a : Action) (guard : Guard s a) :
    SendInv (effect s a) := by
  cases a with
  | accept fd => exact inv.accept reg fd
  | registerClient c fd =>
      simp only [effect, registerClient]
      split <;> exact inv.move guard rfl rfl rfl rfl
  | createTask c fd created => cases created <;> exact inv.move guard rfl rfl rfl rfl
  | countClient c fd | createUnregister c fd | createDiscount c fd | endLoop c fd | released c fd
  | unregister c fd | discount c fd | checkLast c fd | teardownDone c fd =>
      exact inv.move guard rfl rfl rfl rfl
  | refuse c fd | createClose c fd | close c fd => exact inv.close guard rfl rfl rfl rfl
  | sendStart t =>
      have free := inv.holder t
      rw [guard.1] at free
      exact inv.sender t .begin List.nodup_nil rfl rfl rfl free fun _ _ => Iff.rfl
  | sendEncode t nonempty =>
      cases nonempty with
      | true =>
          refine inv.sender t .snapshot List.nodup_nil rfl rfl rfl ⟨fun _ => rfl, fun _ => rfl⟩ ?_
          intro u other
          simp only [effect, if_true, guard.2, Option.some.injEq]
          exact ⟨fun here => absurd here.symm other, fun none_ => by cases none_⟩
      | false =>
          have free := inv.holder t
          rw [guard.1] at free
          exact inv.sender t .idle List.nodup_nil rfl rfl rfl free fun _ _ => Iff.rfl
  | sendSnapshot t =>
      exact inv.sender t (.sending s.clientFds.snapshot []) (FdTable.nodup_snapshot reg.once) rfl
        rfl rfl ⟨fun _ => guard.2, fun _ => rfl⟩ fun _ _ => Iff.rfl
  | sendOne t fd rest dead sent =>
      have held := (inv.holder t).mp (by rw [guard.1]; rfl)
      have nodup := inv.nodup t
      rw [guard.1] at nodup
      have tail : rest.Nodup := List.Nodup.of_cons nodup
      exact inv.sender t (.sending rest _) tail rfl rfl rfl ⟨fun _ => held, fun _ => rfl⟩
        fun _ _ => Iff.rfl
  | sendDone t dead =>
      refine inv.sender t (if dead = [] then .idle else .reaping dead) ?_ rfl rfl rfl ?_ ?_
      · split <;> exact List.nodup_nil
      · split <;> simp [SenderPc.holdsTx, effect]
      · intro u other
        rw [guard.2]
        simpa [effect] using Ne.symm other
  | reap t dead =>
      have free := inv.holder t
      rw [show s.senders t = .reaping dead from guard] at free
      exact inv.sender t .idle List.nodup_nil rfl rfl rfl free fun _ _ => Iff.rfl

end

theorem sendInv_reachable {s : State} (path : system.Reachable s) : SendInv s := by
  refine path.invariant_with (K := RegInv) (fun _ => regInv_reachable) ?_ ?_
  · exact ⟨by simp [system], by simp [system, SenderPc.holdsTx], fun _ => List.nodup_nil⟩
  · intro s a reg inv guard
    exact sendInv_step reg inv a guard

end NimbleProxy.Api.Server

namespace NimbleProxy.Api.Outgoing

open NimbleProxy.Theory NimbleProxy.Api.Server ActionSystem
open NimbleProxy.Api.FrameCodec (Message maxHeaderLen prependHeader header)
open scoped List

set_option autoImplicit false

/-! ## Frames in the staging buffer -/

/-- A complete frame: `FrameCodec.frame` of the message, whatever the buffer held. -/
def wire (m : Message) : List UInt8 :=
  header m.type m.payload.length ++ m.payload

theorem length_wire (m : Message) :
    (wire m).length = (header m.type m.payload.length).length + m.payload.length := by
  simp [wire]

theorem three_le_length_wire (m : Message) : 3 ≤ (wire m).length := by
  have size := Varint.size_pos m.payload.length
  have type := Varint.size_pos m.type.toNat
  rw [length_wire, FrameCodec.length_header]
  omega

/-- With a payload behind the room for the header, `prepend_header` completes the frame and
leaves the payload where it was. -/
theorem prependHeader_wire {buf : Memory} {m : Message} (short : m.payload.length ≤ maxMessageSize)
    (staged : buf.load maxHeaderLen m.payload.length = m.payload) :
    (maxHeaderLen - (prependHeader buf m.type m.payload.length).1) + m.payload.length =
        (wire m).length ∧
      (prependHeader buf m.type m.payload.length).2.load
        (prependHeader buf m.type m.payload.length).1 (wire m).length = wire m ∧
      (prependHeader buf m.type m.payload.length).2.load maxHeaderLen m.payload.length =
        m.payload := by
  obtain ⟨sum, loaded⟩ := FrameCodec.prependHeader_spec buf m.type short
  generalize prependHeader buf m.type m.payload.length = r at sum loaded ⊢
  rw [staged] at loaded
  have room : maxHeaderLen - r.1 = (header m.type m.payload.length).length := by omega
  have whole : (maxHeaderLen - r.1) + m.payload.length = (wire m).length := by
    rw [room, length_wire]
  refine ⟨whole, by rw [← whole]; exact loaded, ?_⟩
  rw [Memory.load_append, show r.1 + (maxHeaderLen - r.1) = maxHeaderLen by omega] at loaded
  exact (List.append_inj loaded (by simp [room])).2

/-- The bytes of one `::send`. -/
theorem load_chunk {buf : Memory} {start total sent k : Nat} {bytes : List UInt8}
    (loaded : buf.load start total = bytes) (inside : sent + k ≤ total) :
    bytes.take sent ++ buf.load (start + sent) k = bytes.take (sent + k) := by
  obtain ⟨more, rfl⟩ : ∃ more, total = sent + k + more := ⟨total - (sent + k), by omega⟩
  rw [Memory.load_append, Memory.load_append] at loaded
  subst loaded
  rw [List.append_assoc, List.take_left' (by simp), ← List.append_assoc, List.take_left' (by simp)]

/-! ## The server inside it -/

section

variable (s : State) (fd : Fd) (ok : Bool)

@[simp] theorem returned_streams (caller : Caller) :
    (returned s fd ok caller).streams = s.streams := by
  cases caller <;> rfl

@[simp] theorem returned_cut (caller : Caller) : (returned s fd ok caller).cut = s.cut := by
  cases caller <;> rfl

@[simp] theorem txLog_giveTx : s.giveTx.txLog = s.txLog := by
  simp [State.txLog, State.giveTx]

@[simp] theorem returned_txLog (caller : Caller) : (returned s fd ok caller).txLog = s.txLog := by
  cases caller with
  | broadcast t rest dead => rfl
  | reply c closeAfter => exact txLog_giveTx s

@[simp] theorem serverStep_server (a : Server.Action) :
    (serverStep s a).server = Server.effect s.server a := by
  unfold serverStep
  split <;> rfl

end

/-- Seen from the server, `send_locked_to` of a broadcast is one step and an answer none. -/
theorem server_projection : ActionSystem.Projection system Server.system State.server where
  init := rfl
  step := by
    intro s a guard
    cases a with
    | server a => exact .inr ⟨a, guard.1, serverStep_server s a⟩
    | encode t m => exact .inr ⟨.sendEncode t true, ⟨guard.1, guard.2.1.1⟩, rfl⟩
    | reply c fd m closeAfter | sendLockedTo caller fd m => exact .inl rfl
    | sent caller l c m k =>
        simp only [system, effect, sent]
        split
        · exact .inl rfl
        · cases caller with
          | broadcast t rest dead =>
              refine .inr ⟨.sendOne t l.fd rest dead true, ⟨guard.1, fun _ closed => ?_⟩, rfl⟩
              rw [show s.server.openFds l.fd = some c from guard.2.2.2.1] at closed
              cases closed
          | reply d closeAfter => exact .inl rfl
    | failed caller l =>
        cases caller with
        | broadcast t rest dead =>
            exact .inr ⟨.sendOne t l.fd rest dead false, ⟨guard.1, fun never => by cases never⟩, rfl⟩
        | reply d closeAfter => exact .inl rfl

theorem server_reachable {s : State} (path : system.Reachable s) :
    RegInv s.server ∧ SendInv s.server :=
  ⟨regInv_reachable (server_projection.reachable path),
    sendInv_reachable (server_projection.reachable path)⟩

/-! ## The invariant -/

/-- The message of the current holder of the mutex may still be sent to `c`. -/
def Due (s : State) (c : ConnId) : Prop :=
  (∃ t, s.server.senders t = .snapshot) ∨
  (∃ t fd, fd ∈ (s.server.senders t).pending ∧ s.server.openFds fd = some c) ∨
  ∃ closeAfter, s.replying = some (c, closeAfter)

structure Inv (s : State) : Prop where
  single : ∀ c b, s.replying = some (c, b) →
    s.server.txHolder = none ∧ ∃ fd, s.server.conns c = some (.running, fd)
  locked : s.current = none ↔ Unlocked s
  staged : ∀ m, s.current = some m → m.payload.length ≤ maxMessageSize ∧
    s.txBuf.load maxHeaderLen m.payload.length = m.payload
  looping : ∀ l, s.loop = some l → (∃ caller, Calls s l.fd caller) ∧ ∃ m, s.current = some m ∧
    l.total = (wire m).length ∧ s.txBuf.load l.start l.total = wire m ∧ l.sent < l.total
  unbegun : ∀ l, s.loop = some l → l.begun = none → l.sent = 0
  /-- a frame that has begun goes to the connection it began with -/
  begun : ∀ l c, s.loop = some l → l.begun = some c → c < s.server.nextConn ∧ 0 < l.sent ∧
    s.cut c = false ∧ s.delivered c <+ s.earlier ∧ ∀ d, s.server.openFds l.fd = some d → d = c
  /-- nobody writes behind a broken frame -/
  silenced : ∀ l c, s.loop = some l → s.server.openFds l.fd = some c → s.cut c = true →
    s.shut c = true
  due : ∀ c, Due s c → s.delivered c <+ s.earlier
  ordered : ∀ c, s.delivered c <+ s.txLog
  sending : ∀ l m c, s.loop = some l → l.begun = some c → s.current = some m →
    s.streams c = (s.delivered c).flatMap wire ++ (wire m).take l.sent
  broken : ∀ c, s.cut c = true → ∃ m tail, s.streams c = (s.delivered c).flatMap wire ++ tail ∧
    (s.delivered c ++ [m]) <+ s.txLog ∧ tail <+: wire m ∧ tail ≠ wire m
  whole : ∀ c, s.cut c = false → (∀ l, s.loop = some l → l.begun ≠ some c) →
    s.streams c = (s.delivered c).flatMap wire
  unborn : ∀ c, s.server.nextConn ≤ c → s.delivered c = [] ∧ s.cut c = false

theorem inv_init : Inv ({} : State) := by
  constructor <;> simp [State.txLog, Unlocked]

section

variable {s : State} {fd : Fd} {c : ConnId}

/-- Who waits for the mutex has nothing to send yet. -/
theorem SendInv.idle_of_free (send : SendInv s.server) (free : s.server.txHolder = none)
    (t : SenderId) : (s.server.senders t).holdsTx = false := by
  cases holds : (s.server.senders t).holdsTx with
  | false => rfl
  | true =>
      have held := (send.holder t).mp holds
      rw [free] at held
      cases held

theorem holdsTx_of_pending {pc : SenderPc} (inside : fd ∈ pc.pending) : pc.holdsTx = true := by
  cases pc with
  | sending rest dead => rfl
  | idle | begin | snapshot | reaping dead => cases inside

/-- With the mutex free, nothing is due to anybody. -/
theorem not_due (send : SendInv s.server) (free : Unlocked s) : ¬ Due s c := by
  rintro (⟨t, isSnapshot⟩ | ⟨t, fd, inside, -⟩ | ⟨closeAfter, isReply⟩)
  · have idle := SendInv.idle_of_free send free.1 t
    rw [isSnapshot] at idle
    cases idle
  · have idle := SendInv.idle_of_free send free.1 t
    rw [holdsTx_of_pending inside] at idle
    cases idle
  · rw [free.2] at isReply
    cases isReply

/-- The message is due to the connection a caller of `send_locked_to` writes to. -/
theorem due_of_calls (reg : RegInv s.server) {caller : Caller} (calls : Calls s fd caller)
    (isOpen : s.server.openFds fd = some c) : Due s c := by
  cases caller with
  | broadcast t rest dead =>
      refine .inr (.inl ⟨t, fd, ?_, isOpen⟩)
      rw [show s.server.senders t = .sending (fd :: rest) dead from calls]
      exact List.mem_cons_self
  | reply d closeAfter =>
      have same : some d = some c := (reg.isOpen d _ fd calls.2).symm.trans isOpen
      exact .inr (.inr ⟨closeAfter, by rw [← Option.some.inj same]; exact calls.1⟩)

end

/-! ## The steps of the server -/

/-- **The condition.** A frame is started only on a socket without a broken frame, or on one
that has been shut down since; and an fd on which a frame is half sent is not handed to a new
connection. -/
def Clean (s : State) : Action → Prop
  | .sendLockedTo _ fd _ => ∀ c ∈ s.server.openFds fd, s.cut c = true → s.shut c = true
  | .server (.accept fd) => ∀ l ∈ s.loop, l.fd = fd → l.sent = 0
  | _ => True

instance (s : State) : (a : Action) → Decidable (Clean s a)
  | .sendLockedTo _ fd _ =>
      inferInstanceAs (Decidable (∀ c ∈ s.server.openFds fd, s.cut c = true → s.shut c = true))
  | .server a =>
      match a with
      | .accept fd => inferInstanceAs (Decidable (∀ l ∈ s.loop, l.fd = fd → l.sent = 0))
      | .released .. | .registerClient .. | .countClient .. | .refuse .. | .createTask ..
      | .createUnregister .. | .createDiscount .. | .createClose .. | .unregister .. | .discount ..
      | .checkLast .. | .close .. | .sendStart .. | .sendSnapshot .. | .sendDone .. | .reap ..
      | .teardownDone .. | .sendEncode .. | .sendOne .. | .endLoop .. =>
          inferInstanceAs (Decidable True)
  | .encode .. | .reply .. | .sent .. | .failed .. => inferInstanceAs (Decidable True)

/-- What a step of the server leaves alone, apart from the end of a broadcast. -/
structure Quiet (s : State) (a : Server.Action) : Prop where
  notDone : ∀ t dead, a ≠ .sendDone t dead
  txHolder : (Server.effect s.server a).txHolder = s.server.txHolder
  snapshot : ∀ t, (Server.effect s.server a).senders t = .snapshot → s.server.senders t = .snapshot
  pending : ∀ t fd, fd ∈ ((Server.effect s.server a).senders t).pending →
    fd ∈ (s.server.senders t).pending ∨ s.server.senders t = .snapshot
  sending : ∀ t rest dead, s.server.senders t = .sending rest dead →
    (Server.effect s.server a).senders t = .sending rest dead
  running : ∀ c b fd, s.replying = some (c, b) → s.server.conns c = some (.running, fd) →
    (Server.effect s.server a).conns c = some (.running, fd)
  sockets : ∀ fd c, (Server.effect s.server a).openFds fd = some c →
    s.server.openFds fd = some c ∨ (c = s.server.nextConn ∧ a = .accept fd)

section

variable {s : State} {a : Server.Action}

/-- A connection moves, and not the one that holds the mutex. -/
theorem quiet_move {d : ConnId} {fd : Fd} {pos : ConnAt} (next : Option (ConnAt × Fd))
    (notDone : ∀ t dead, a ≠ .sendDone t dead) (held : s.server.conns d = some (pos, fd))
    (still : pos = .running → s.replying.map Prod.fst ≠ some d)
    (conns : (Server.effect s.server a).conns = Function.update s.server.conns d next)
    (senders : (Server.effect s.server a).senders = s.server.senders)
    (txHolder : (Server.effect s.server a).txHolder = s.server.txHolder)
    (sockets : ∀ fd c, (Server.effect s.server a).openFds fd = some c →
      s.server.openFds fd = some c) : Quiet s a := by
  refine ⟨notDone, txHolder, ?_, ?_, ?_, ?_, fun fd c isOpen => .inl (sockets fd c isOpen)⟩
  · intro t here
    rw [← senders]
    exact here
  · intro t fd inside
    rw [← senders]
    exact .inl inside
  · intro t rest dead here
    rw [senders]
    exact here
  · intro c b fdC isReply heldC
    have other : c ≠ d := by
      rintro rfl
      obtain ⟨rfl, -⟩ := Prod.mk.inj (Option.some.inj (held.symm.trans heldC))
      exact still rfl (by rw [isReply]; rfl)
    rw [conns, Function.update_of_ne other]
    exact heldC

/-- A sender moves that does not hold the mutex, or makes its snapshot. -/
theorem quiet_sender (t : SenderId) (pc : SenderPc) (notDone : ∀ t dead, a ≠ .sendDone t dead)
    (before : ∀ rest dead, s.server.senders t ≠ .sending rest dead)
    (after : pc.holdsTx = true → s.server.senders t = .snapshot ∧ pc ≠ .snapshot)
    (conns : (Server.effect s.server a).conns = s.server.conns)
    (openFds : (Server.effect s.server a).openFds = s.server.openFds)
    (senders : (Server.effect s.server a).senders = Function.update s.server.senders t pc)
    (txHolder : (Server.effect s.server a).txHolder = s.server.txHolder) : Quiet s a := by
  refine ⟨notDone, txHolder, ?_, ?_, ?_, ?_, ?_⟩
  · intro u here
    rw [senders, Function.update_apply] at here
    split at here
    · subst here
      exact absurd rfl (after rfl).2
    · exact here
  · intro u fd inside
    rw [senders, Function.update_apply] at inside
    split at inside
    · rename_i isT
      rw [isT]
      exact .inr (after (holdsTx_of_pending inside)).1
    · exact .inl inside
  · intro u rest dead here
    have other : u ≠ t := by
      rintro rfl
      exact before rest dead here
    rw [senders, Function.update_of_ne other]
    exact here
  · intro c b fd _ held
    rw [conns]
    exact held
  · intro fd c isOpen
    rw [openFds] at isOpen
    exact .inl isOpen

theorem quiet_accept (reg : RegInv s.server) (fd : Fd) : Quiet s (.accept fd) := by
  refine ⟨by simp, rfl, fun _ here => here, fun _ _ inside => .inl inside, fun _ _ _ here => here,
    ?_, ?_⟩
  · intro c b fdC _ held
    exact (accept_conns (reg.known c _ fdC held) fd).trans held
  · intro fdC c isOpen
    simp only [Server.effect, accept, Function.update_apply] at isOpen
    split at isOpen
    · rename_i here
      exact .inr ⟨(Option.some.inj isOpen).symm, by rw [here]⟩
    · exact .inl isOpen

theorem openFds_of_close {s : Server.State} {fd fd' : Fd} {c : ConnId}
    (isOpen : Function.update s.openFds fd none fd' = some c) : s.openFds fd' = some c := by
  rw [Function.update_apply] at isOpen
  split at isOpen
  · cases isOpen
  · exact isOpen

theorem quiet_of_beside (reg : RegInv s.server) (guard : Server.Guard s.server a)
    (beside : Beside s a) (notDone : ∀ t dead, a ≠ .sendDone t dead) : Quiet s a := by
  cases a with
  | accept fd => exact quiet_accept reg fd
  | registerClient c fd =>
      cases entered : s.server.clientFds.enter fd with
      | none =>
          exact quiet_move (some (.refused, fd)) notDone guard (by simp)
            (by simp only [Server.effect, registerClient, entered, Server.State.moveTo])
            (by simp only [Server.effect, registerClient, entered, Server.State.moveTo])
            (by simp only [Server.effect, registerClient, entered, Server.State.moveTo])
            (by simp only [Server.effect, registerClient, entered, Server.State.moveTo, imp_self,
              implies_true])
      | some fds =>
          exact quiet_move (some (.counting, fd)) notDone guard (by simp)
            (by simp only [Server.effect, registerClient, entered, Server.State.moveTo])
            (by simp only [Server.effect, registerClient, entered, Server.State.moveTo])
            (by simp only [Server.effect, registerClient, entered, Server.State.moveTo])
            (by simp only [Server.effect, registerClient, entered, Server.State.moveTo, imp_self,
              implies_true])
  | createTask c fd created =>
      cases created <;>
        exact quiet_move _ notDone guard (by simp) rfl rfl rfl fun _ _ isOpen => isOpen
  | countClient c fd | createUnregister c fd | createDiscount c fd | released c fd
  | unregister c fd | discount c fd | checkLast c fd | teardownDone c fd =>
      exact quiet_move _ notDone guard (by simp) rfl rfl rfl fun _ _ isOpen => isOpen
  | endLoop c fd =>
      exact quiet_move _ notDone guard (fun _ => beside) rfl rfl rfl fun _ _ isOpen => isOpen
  | refuse c fd | createClose c fd | close c fd =>
      exact quiet_move none notDone guard (by simp) rfl rfl rfl fun _ _ isOpen =>
        openFds_of_close isOpen
  | sendStart t =>
      exact quiet_sender t .begin notDone (by simp [guard.1]) (by simp [SenderPc.holdsTx]) rfl rfl
        rfl rfl
  | sendEncode t nonempty =>
      obtain ⟨rfl, -⟩ := beside
      exact quiet_sender t .idle notDone (by simp [guard.1]) (by simp [SenderPc.holdsTx]) rfl rfl
        rfl rfl
  | sendSnapshot t =>
      exact quiet_sender t (.sending s.server.clientFds.snapshot []) notDone (by simp [guard.1])
        (by simp [guard.1]) rfl rfl rfl rfl
  | sendOne t fd rest dead sent => exact beside.elim
  | sendDone t dead => exact absurd rfl (notDone t dead)
  | reap t dead =>
      have isReaping : s.server.senders t = .reaping dead := guard
      exact quiet_sender t .idle notDone (by simp [isReaping]) (by simp [SenderPc.holdsTx]) rfl rfl
        rfl rfl

theorem serverStep_eq (notDone : ∀ t dead, a ≠ .sendDone t dead) :
    serverStep s a = { s with
      server := Server.effect s.server a, shut := fun c => s.shut c || shutsDown s c a } := by
  cases a with
  | sendDone t dead => exact absurd rfl (notDone t dead)
  | _ => rfl

theorem calls_quiet (quiet : Quiet s a) {fd : Fd} {caller : Caller} (calls : Calls s fd caller) :
    Calls (serverStep s a) fd caller := by
  rw [serverStep_eq quiet.notDone]
  cases caller with
  | broadcast t rest dead => exact quiet.sending t _ dead calls
  | reply c closeAfter => exact ⟨calls.1, quiet.running c closeAfter fd calls.1 calls.2⟩

theorem due_quiet (quiet : Quiet s a) {c : ConnId} (due : Due (serverStep s a) c) :
    Due s c ∨ c = s.server.nextConn := by
  rw [serverStep_eq quiet.notDone] at due
  rcases due with ⟨t, isSnapshot⟩ | ⟨t, fd, inside, isOpen⟩ | isReply
  · exact .inl (.inl ⟨t, quiet.snapshot t isSnapshot⟩)
  · rcases quiet.pending t fd inside with was | wasSnapshot
    · rcases quiet.sockets fd c isOpen with before | ⟨new, -⟩
      · exact .inl (.inr (.inl ⟨t, fd, was, before⟩))
      · exact .inr new
    · exact .inl (.inl ⟨t, wasSnapshot⟩)
  · exact .inl (.inr (.inr isReply))

theorem inv_quiet (inv : Inv s) (quiet : Quiet s a) (guard : Server.Guard s.server a)
    (clean : Clean s (.server a)) : Inv (serverStep s a) := by
  have calls : ∀ fd caller, Calls s fd caller → Calls (serverStep s a) fd caller :=
    fun _ _ => calls_quiet quiet
  have due := fun c => due_quiet (c := c) quiet
  rw [serverStep_eq quiet.notDone] at calls due ⊢
  refine ⟨?_, ?_, inv.staged, ?_, inv.unbegun, ?_, ?_, ?_, inv.ordered, inv.sending, inv.broken,
    inv.whole, ?_⟩
  · intro c b isReply
    obtain ⟨free, fd, held⟩ := inv.single c b isReply
    exact ⟨quiet.txHolder.trans free, fd, quiet.running c b fd isReply held⟩
  · rw [inv.locked]
    simp only [Unlocked, quiet.txHolder]
  · intro l looping
    obtain ⟨⟨caller, call⟩, m, frame⟩ := inv.looping l looping
    exact ⟨⟨caller, calls _ _ call⟩, m, frame⟩
  · intro l c looping begun
    obtain ⟨known, some_, notCut, before, owner⟩ := inv.begun l c looping begun
    refine ⟨Nat.lt_of_lt_of_le known (nextConn_step guard), some_, notCut, before, ?_⟩
    intro d isOpen
    rcases quiet.sockets l.fd d isOpen with was | ⟨-, rfl⟩
    · exact owner d was
    · -- the fd of a half-sent frame is not handed out
      have notBegun := clean l looping rfl
      omega
  · intro l c looping isOpen isCut
    rcases quiet.sockets l.fd c isOpen with was | ⟨new, -⟩
    · simp only [inv.silenced l c looping was isCut, Bool.true_or]
    · have notCut := (inv.unborn c (Nat.le_of_eq new.symm)).2
      rw [show s.cut c = true from isCut] at notCut
      cases notCut
  · intro c isDue
    rcases due c isDue with was | new
    · exact inv.due c was
    · show s.delivered c <+ s.earlier
      rw [(inv.unborn c (Nat.le_of_eq new.symm)).1]
      exact List.nil_sublist _
  · intro c unborn
    exact inv.unborn c (Nat.le_trans (nextConn_step guard) unborn)

/-- No `send_locked_to` is under way when a broadcast has no fd left. -/
theorem no_loop_at_done (inv : Inv s) (send : SendInv s.server) {t : SenderId} {dead : List Dead}
    (isDone : s.server.senders t = .sending [] dead) : s.loop = none := by
  cases looping : s.loop with
  | none => rfl
  | some l =>
      have held := (send.holder t).mp (by rw [isDone]; rfl)
      obtain ⟨⟨caller, calls⟩, -⟩ := inv.looping l looping
      cases caller with
      | broadcast u rest failed =>
          have isSending : s.server.senders u = .sending (l.fd :: rest) failed := calls
          have heldU := (send.holder u).mp (by rw [isSending]; rfl)
          have same : some u = some t := heldU.symm.trans held
          rw [Option.some.inj same, isDone] at isSending
          cases isSending
      | reply c closeAfter =>
          have free := (inv.single c closeAfter calls.1).1
          rw [held] at free
          cases free

/-- What has been written so far, with no frame under way. -/
structure Settled (s : State) : Prop where
  ordered : ∀ c, s.delivered c <+ s.txLog
  broken : ∀ c, s.cut c = true → ∃ m tail, s.streams c = (s.delivered c).flatMap wire ++ tail ∧
    (s.delivered c ++ [m]) <+ s.txLog ∧ tail <+: wire m ∧ tail ≠ wire m
  whole : ∀ c, s.cut c = false → s.streams c = (s.delivered c).flatMap wire
  unborn : ∀ c, s.server.nextConn ≤ c → s.delivered c = [] ∧ s.cut c = false

theorem Inv.settled (inv : Inv s) (noLoop : s.loop = none) : Settled s :=
  ⟨inv.ordered, inv.broken, fun c notCut => inv.whole c notCut (by simp [noLoop]), inv.unborn⟩

/-- The mutex is given back. -/
theorem Settled.inv_unlocked (settled : Settled s) (send : SendInv s.server) (free : Unlocked s)
    (noLoop : s.loop = none) (current : s.current = none) : Inv s := by
  refine ⟨?_, ⟨fun _ => free, fun _ => current⟩, ?_, ?_, ?_, ?_, ?_,
    fun c isDue => absurd isDue (not_due send free), settled.ordered, ?_, settled.broken,
    fun c notCut _ => settled.whole c notCut, settled.unborn⟩
  · intro c b isReply
    rw [free.2] at isReply
    cases isReply
  all_goals simp [noLoop, current]

theorem inv_sendDone (inv : Inv s) (reg : RegInv s.server) (send : SendInv s.server) {t : SenderId}
    {dead : List Dead} (guard : Server.Guard s.server (.sendDone t dead)) :
    Inv (serverStep s (.sendDone t dead)) := by
  have noLoop := no_loop_at_done inv send guard.1
  have noReply : s.replying = none := by
    cases isReply : s.replying with
    | none => rfl
    | some reply =>
        have free := (inv.single reply.1 reply.2 isReply).1
        rw [guard.2] at free
        cases free
  obtain ⟨ordered, broken, whole, unborn⟩ := inv.settled noLoop
  have settled : Settled (serverStep s (.sendDone t dead)) := by
    rw [← txLog_giveTx] at ordered broken
    exact ⟨ordered, broken, whole, unborn⟩
  exact settled.inv_unlocked (sendInv_step reg send _ guard) ⟨rfl, noReply⟩ noLoop rfl

end

/-! ## Sending -/

section

variable {s : State}

theorem loop_of_unlocked (inv : Inv s) (free : Unlocked s) : s.loop = none := by
  cases looping : s.loop with
  | none => rfl
  | some l =>
      obtain ⟨-, m, isCurrent, -⟩ := inv.looping l looping
      rw [inv.locked.mpr free] at isCurrent
      cases isCurrent

/-- A task takes the mutex and encodes: everything sent so far belongs to earlier messages. -/
theorem inv_taken (inv : Inv s) (free : Unlocked s) {m : Message}
    (short : m.payload.length ≤ maxMessageSize) (server : Server.State)
    (replying : Option (ConnId × Bool)) (held : ¬ (server.txHolder = none ∧ replying = none))
    (single : ∀ c b, replying = some (c, b) →
      server.txHolder = none ∧ ∃ fd, server.conns c = some (.running, fd))
    (nextConn : server.nextConn = s.server.nextConn) :
    Inv { s with
      server, replying, txBuf := s.txBuf.store maxHeaderLen m.payload, current := some m } := by
  have noLoop := loop_of_unlocked inv free
  have log : s.txLog = s.earlier := by simp [State.txLog, inv.locked.mpr free]
  have grown : s.txLog <+ s.earlier ++ [m] := by
    rw [log]
    exact List.sublist_append_left _ _
  refine ⟨single, ?_, ?_, ?_, ?_, ?_, ?_, ?_, ?_, ?_, ?_, inv.whole, ?_⟩
  · simp only [Unlocked, reduceCtorEq, false_iff]
    exact held
  · rintro _ ⟨⟩
    exact ⟨short, Memory.load_store _ _ _⟩
  · intro l looping
    exact absurd looping (by simp [noLoop])
  · intro l looping
    exact absurd looping (by simp [noLoop])
  · intro l c looping
    exact absurd looping (by simp [noLoop])
  · intro l c looping
    exact absurd looping (by simp [noLoop])
  · intro c _
    rw [← log]
    exact inv.ordered c
  · intro c
    exact (inv.ordered c).trans grown
  · intro l m c looping
    exact absurd looping (by simp [noLoop])
  · intro c isCut
    obtain ⟨m', tail, stream, inOrder, isPrefix⟩ := inv.broken c isCut
    exact ⟨m', tail, stream, inOrder.trans grown, isPrefix⟩
  · intro c unborn
    exact inv.unborn c (by rw [← nextConn]; exact unborn)

theorem inv_sendLockedTo (inv : Inv s) {caller : Caller} {fd : Fd} {m : Message}
    (guard : Guard s (.sendLockedTo caller fd m)) (clean : Clean s (.sendLockedTo caller fd m)) :
    Inv (sendLockedTo s fd m) := by
  obtain ⟨calls, noLoop, isCurrent⟩ := guard
  obtain ⟨short, staged⟩ := inv.staged m isCurrent
  obtain ⟨total, frame, kept⟩ := prependHeader_wire short staged
  unfold sendLockedTo
  generalize prependHeader s.txBuf m.type m.payload.length = r at total frame kept ⊢
  obtain ⟨start, txBuf⟩ := r
  refine ⟨inv.single, inv.locked, ?_, ?_, ?_, ?_, ?_, inv.due, inv.ordered, ?_, inv.broken, ?_,
    inv.unborn⟩
  · intro m' isCurrent'
    obtain rfl := Option.some.inj (isCurrent.symm.trans isCurrent')
    exact ⟨short, kept⟩
  · rintro _ ⟨⟩
    refine ⟨⟨caller, ?_⟩, m, isCurrent, total, ?_, ?_⟩
    · cases caller <;> exact calls
    · show txBuf.load start _ = wire m
      rw [total]
      exact frame
    · have atLeast := three_le_length_wire m
      show 0 < (maxHeaderLen - start) + m.payload.length
      omega
  · rintro _ ⟨⟩ _
    rfl
  · rintro _ c ⟨⟩ never
    cases never
  · rintro _ c ⟨⟩ isOpen isCut
    exact clean c isOpen isCut
  · rintro _ _ c ⟨⟩ never
    cases never
  · intro c notCut _
    exact inv.whole c notCut (by simp [noLoop])

/-- With `l` under way, what connection `c` has been given is complete frames and the part
of the current one that it got. -/
theorem stream_before (inv : Inv s) {l : Loop} {c : ConnId} {m : Message}
    (looping : s.loop = some l) (isCurrent : s.current = some m)
    (isOpen : s.server.openFds l.fd = some c) (live : s.shut c = false) :
    s.cut c = false ∧ (l.begun = none ∨ l.begun = some c) ∧
      s.streams c = (s.delivered c).flatMap wire ++ (wire m).take l.sent := by
  have notCut : s.cut c = false := by
    cases isCut : s.cut c with
    | false => rfl
    | true =>
        rw [inv.silenced l c looping isOpen isCut] at live
        cases live
  refine ⟨notCut, ?_⟩
  cases begun : l.begun with
  | none =>
      refine ⟨.inl rfl, ?_⟩
      rw [inv.unbegun l looping begun, List.take_zero, List.append_nil]
      apply inv.whole c notCut
      intro l' looping' begun'
      obtain rfl := Option.some.inj (looping.symm.trans looping')
      rw [begun] at begun'
      cases begun'
  | some b =>
      obtain rfl := (inv.begun l b looping begun).2.2.2.2 c isOpen
      exact ⟨.inr rfl, inv.sending l m c looping begun isCurrent⟩

theorem inv_sendBytes (inv : Inv s) (reg : RegInv s.server) (send : SendInv s.server) {l : Loop} {c : ConnId} {m : Message}
    {k : Nat} {caller : Caller} (calls : Calls s l.fd caller) (looping : s.loop = some l)
    (isCurrent : s.current = some m) (isOpen : s.server.openFds l.fd = some c)
    (live : s.shut c = false) (some_ : 0 < k) (more : l.sent + k < l.total) :
    Inv (sendBytes s l c k) := by
  obtain ⟨notCut, begun, stream⟩ := stream_before inv looping isCurrent isOpen live
  obtain ⟨-, m', isCurrent', total, frame, -⟩ := inv.looping l looping
  obtain rfl := Option.some.inj (isCurrent.symm.trans isCurrent')
  have begins : l.begun.getD c = c := by
    rcases begun with none_ | some_ <;> simp [*]
  refine ⟨inv.single, inv.locked, inv.staged, ?_, ?_, ?_, ?_, inv.due, inv.ordered, ?_, ?_, ?_,
    inv.unborn⟩
  · rintro _ ⟨⟩
    refine ⟨⟨caller, ?_⟩, m, isCurrent, total, frame, more⟩
    cases caller <;> exact calls
  · rintro _ ⟨⟩ never
    cases never
  · rintro _ d ⟨⟩ isBegun
    simp only [begins, Option.some.injEq] at isBegun
    subst isBegun
    refine ⟨?_, ?_, notCut, inv.due c (due_of_calls reg calls isOpen), ?_⟩
    · obtain ⟨pos, held⟩ := send.opened l.fd c isOpen
      exact reg.known c pos l.fd held
    · show 0 < l.sent + k
      omega
    · intro d isOpenD
      exact Option.some.inj (isOpenD.symm.trans isOpen)
  · rintro _ d ⟨⟩ isOpenD isCut
    exact inv.silenced l d looping isOpenD isCut
  · rintro _ m' d ⟨⟩ isBegun isCurrent'
    simp only [begins, Option.some.injEq] at isBegun
    subst isBegun
    obtain rfl := Option.some.inj (isCurrent.symm.trans isCurrent')
    simp only [sendBytes, Function.update_self, stream, List.append_assoc]
    rw [load_chunk frame (Nat.le_of_lt more)]
  · intro d isCut
    have other : d ≠ c := by
      rintro rfl
      rw [show s.cut d = true from isCut] at notCut
      cases notCut
    simp only [sendBytes, Function.update_of_ne other]
    exact inv.broken d isCut
  · intro d notCutD notBegun
    have other : d ≠ c := by
      rintro rfl
      exact notBegun _ rfl (congrArg some begins)
    simp only [sendBytes, Function.update_of_ne other]
    apply inv.whole d notCutD
    intro l' looping' isBegun
    obtain rfl := Option.some.inj (looping.symm.trans looping')
    rcases begun with none_ | here
    · rw [none_] at isBegun
      cases isBegun
    · exact other (Option.some.inj (isBegun.symm.trans here))

/-- `send_locked_to` returns, with nothing new delivered behind its fd's connection. -/
theorem inv_returned (inv : Inv s) (send : SendInv s.server) {fd : Fd} {caller : Caller}
    (calls : Calls s fd caller) (ok : Bool) {s' : State} (settled : Settled s')
    (server : s'.server = s.server) (replying : s'.replying = s.replying)
    (current : s'.current = s.current) (txBuf : s'.txBuf = s.txBuf) (earlier : s'.earlier = s.earlier)
    (others : ∀ c, s.server.openFds fd ≠ some c → s'.delivered c = s.delivered c) :
    Inv (returned s' fd ok caller) := by
  obtain ⟨ordered, broken, whole, unborn⟩ := settled
  cases caller with
  | broadcast t rest dead =>
      have isSending : s.server.senders t = .sending (fd :: rest) dead := calls
      have held := (send.holder t).mp (by rw [isSending]; rfl)
      have mine : ∀ u, (s.server.senders u).holdsTx = true → u = t := by
        intro u holds
        exact Option.some.inj (((send.holder u).mp holds).symm.trans held)
      have noReply : ∀ c b, s.replying ≠ some (c, b) := by
        intro c b isReply
        have free := (inv.single c b isReply).1
        rw [held] at free
        cases free
      refine ⟨?_, ?_, ?_, ?_, ?_, ?_, ?_, ?_, ordered, ?_, broken, fun c notCut _ => whole c notCut, ?_⟩
      · intro c b isReply
        exact absurd (replying.symm.trans isReply) (noReply c b)
      · have locked := inv.locked
        simp only [Unlocked] at locked ⊢
        simp only [returned, current, replying, server, Server.effect, Server.sendOne]
        exact locked
      · intro m isCurrent
        simp only [returned, txBuf]
        exact inv.staged m (current.symm.trans isCurrent)
      · rintro _ ⟨⟩
      · rintro _ ⟨⟩
      · rintro _ _ ⟨⟩
      · rintro _ _ ⟨⟩
      · intro c isDue
        -- what is due now was due before, and not to the connection on `fd`
        simp only [returned, earlier]
        rcases isDue with ⟨u, isSnapshot⟩ | ⟨u, fd', inside, isOpen⟩ | ⟨b, isReply⟩
        · simp only [returned, server, Server.effect, Server.sendOne, Function.update_apply] at isSnapshot
          split at isSnapshot
          · cases isSnapshot
          · rename_i other
            exact absurd (mine u (by rw [isSnapshot]; rfl)) other
        · simp only [returned, server, Server.effect, Server.sendOne, Function.update_apply] at inside isOpen
          split at inside
          · have nodup := send.nodup t
            rw [isSending] at nodup
            have notIn := (List.nodup_cons.mp nodup).1
            have other : s.server.openFds fd ≠ some c := by
              intro isOpenC
              rw [send.fd_inj isOpenC isOpen] at notIn
              exact notIn inside
            rw [others c other]
            refine inv.due c (.inr (.inl ⟨t, fd', ?_, isOpen⟩))
            rw [isSending]
            exact List.mem_cons_of_mem _ inside
          · rename_i other
            exact absurd (mine u (holdsTx_of_pending inside)) other
        · exact absurd (replying.symm.trans isReply) (noReply c b)
      · rintro _ _ _ ⟨⟩
      · intro c isUnborn
        rw [server] at unborn
        simp only [returned, server] at isUnborn ⊢
        exact unborn c isUnborn
  | reply c closeAfter =>
      have free := (inv.single c closeAfter calls.1).1
      have settled' : Settled (returned s' fd ok (.reply c closeAfter)) := by
        rw [← txLog_giveTx] at ordered broken
        exact ⟨ordered, broken, whole, unborn⟩
      refine settled'.inv_unlocked ?_ ⟨?_, rfl⟩ rfl rfl
      · simp only [returned, State.giveTx, server]
        exact send
      · simp only [returned, State.giveTx, server]
        exact free

theorem txLog_of_current {m : Message} (isCurrent : s.current = some m) :
    s.txLog = s.earlier ++ [m] := by
  simp [State.txLog, isCurrent]

/-- The last `::send` of a frame completes it. -/
theorem settled_sent (inv : Inv s) (reg : RegInv s.server) (send : SendInv s.server) {l : Loop}
    {c : ConnId} {m : Message} {k : Nat} {caller : Caller} (calls : Calls s l.fd caller)
    (looping : s.loop = some l) (isCurrent : s.current = some m)
    (isOpen : s.server.openFds l.fd = some c) (live : s.shut c = false)
    (done : l.sent + k = l.total) :
    Settled { sendBytes s l c k with
      delivered := Function.update s.delivered c (s.delivered c ++ [m]) } := by
  obtain ⟨notCut, begun, stream⟩ := stream_before inv looping isCurrent isOpen live
  obtain ⟨-, m', isCurrent', total, frame, -⟩ := inv.looping l looping
  obtain rfl := Option.some.inj (isCurrent.symm.trans isCurrent')
  have log := txLog_of_current isCurrent
  have inOrder : (s.delivered c ++ [m]) <+ s.txLog := by
    rw [log]
    exact (inv.due c (due_of_calls reg calls isOpen)).append_right [m]
  refine ⟨?_, ?_, ?_, ?_⟩
  · intro d
    by_cases here : d = c
    · subst here
      simp only [Function.update_self]
      exact inOrder
    · simp only [Function.update_of_ne here]
      exact inv.ordered d
  · intro d isCut
    have other : d ≠ c := by
      rintro rfl
      rw [show s.cut d = true from isCut] at notCut
      cases notCut
    simp only [sendBytes, Function.update_of_ne other]
    exact inv.broken d isCut
  · intro d notCutD
    by_cases here : d = c
    · subst here
      simp only [sendBytes, Function.update_self, stream, List.append_assoc]
      rw [load_chunk frame (Nat.le_of_eq done), done, total, List.take_length]
      simp
    · simp only [sendBytes, Function.update_of_ne here]
      apply inv.whole d notCutD
      intro l' looping' isBegun
      obtain rfl := Option.some.inj (looping.symm.trans looping')
      rcases begun with none_ | isC
      · rw [none_] at isBegun
        cases isBegun
      · exact here (Option.some.inj (isBegun.symm.trans isC))
  · intro d isUnborn
    have other : d ≠ c := by
      rintro rfl
      obtain ⟨pos, held⟩ := send.opened l.fd d isOpen
      exact absurd (reg.known d pos l.fd held) (Nat.not_lt.mpr isUnborn)
    simp only [Function.update_of_ne other]
    exact inv.unborn d isUnborn

/-- A failed `::send` breaks the frame off if it had begun. -/
theorem settled_failed (inv : Inv s) {l : Loop} (looping : s.loop = some l) :
    Settled { s with cut := fun c => s.cut c || decide (l.begun = some c) } := by
  obtain ⟨-, m, isCurrent, total, frame, short⟩ := inv.looping l looping
  refine ⟨inv.ordered, ?_, ?_, ?_⟩
  · intro c isCut
    simp only [Bool.or_eq_true, decide_eq_true_eq] at isCut
    rcases isCut with before | isBegun
    · exact inv.broken c before
    · refine ⟨m, _, inv.sending l m c looping isBegun isCurrent, ?_, List.take_prefix _ _, ?_⟩
      · show (s.delivered c ++ [m]) <+ s.txLog
        rw [txLog_of_current isCurrent]
        exact (inv.begun l c looping isBegun).2.2.2.1.append_right [m]
      · intro isWhole
        have lengths := congrArg List.length isWhole
        rw [List.length_take] at lengths
        omega
  · intro c notCut
    simp only [Bool.or_eq_false_iff, decide_eq_false_iff_not] at notCut
    apply inv.whole c notCut.1
    intro l' looping' isBegun
    obtain rfl := Option.some.inj (looping.symm.trans looping')
    exact notCut.2 isBegun
  · intro c isUnborn
    have notBegun : l.begun ≠ some c := by
      intro isBegun
      exact absurd (inv.begun l c looping isBegun).1 (Nat.not_lt.mpr isUnborn)
    simp only [notBegun, decide_false, Bool.or_false]
    exact inv.unborn c isUnborn

theorem inv_step (reg : RegInv s.server) (send : SendInv s.server) (inv : Inv s) (a : Action)
    (guard : Guard s a) (clean : Clean s a) : Inv (effect s a) := by
  cases a with
  | server a =>
      by_cases done : ∃ t dead, a = .sendDone t dead
      · obtain ⟨t, dead, rfl⟩ := done
        exact inv_sendDone inv reg send guard.1
      · have notDone : ∀ t dead, a ≠ .sendDone t dead := by
          intro t dead isDone
          exact done ⟨t, dead, isDone⟩
        exact inv_quiet inv (quiet_of_beside reg guard.1 guard.2 notDone) guard.1 clean
  | encode t m =>
      obtain ⟨-, free, -, short⟩ := guard
      refine inv_taken inv free short _ s.replying ?_ ?_ rfl
      · simp [Server.effect]
      · intro c b isReply
        rw [free.2] at isReply
        cases isReply
  | reply c fd m closeAfter =>
      obtain ⟨held, -, free, -, short⟩ := guard
      refine inv_taken inv free short s.server (some (c, closeAfter)) (by simp) ?_ rfl
      rintro _ _ ⟨⟩
      exact ⟨free.1, fd, held⟩
  | sendLockedTo caller fd m => exact inv_sendLockedTo inv guard clean
  | sent caller l c m k =>
      obtain ⟨calls, looping, isCurrent, isOpen, live, some_, inside⟩ := guard
      simp only [effect, sent]
      split
      · rename_i more
        exact inv_sendBytes inv reg send calls looping isCurrent isOpen live some_ more
      · have settled := settled_sent inv reg send calls looping isCurrent isOpen live
          (k := k) (by omega)
        apply inv_returned inv send calls true settled rfl rfl rfl rfl rfl
        intro d notOpen
        have other : d ≠ c := by
          rintro rfl
          exact notOpen isOpen
        exact Function.update_of_ne other _ _
  | failed caller l =>
      obtain ⟨calls, looping⟩ := guard
      exact inv_returned inv send calls false (settled_failed inv looping) rfl rfl rfl rfl rfl
        fun _ _ => rfl

/-- Nothing is ever written behind a broken frame. -/
theorem broken_step (inv : Inv s) {c : ConnId} (isCut : s.cut c = true) (a : Action)
    (guard : Guard s a) :
    (effect s a).cut c = true ∧ (effect s a).streams c = s.streams c := by
  cases a with
  | server a =>
      simp only [effect, serverStep]
      split <;> exact ⟨isCut, rfl⟩
  | encode t m | reply d fd m closeAfter | sendLockedTo caller fd m => exact ⟨isCut, rfl⟩
  | sent caller l d m k =>
      obtain ⟨-, looping, isCurrent, isOpen, live, -, -⟩ := guard
      have notCut := (stream_before inv looping isCurrent isOpen live).1
      have other : c ≠ d := by
        rintro rfl
        rw [isCut] at notCut
        cases notCut
      simp only [effect, sent]
      split <;> simp [sendBytes, Function.update_of_ne other, isCut]
  | failed caller l => simp [effect, failed, isCut]

end

theorem inv_reachable {s : State} (path : system.ReachableWhen Clean s) : Inv s := by
  refine path.invariant_with (K := fun s => RegInv s.server ∧ SendInv s.server)
    (fun _ => server_reachable) inv_init ?_
  intro s a known inv guard clean
  exact inv_step known.1 known.2 inv a guard clean

theorem broken_forever {s t : State} {c : ConnId} (path : system.ReachableWhen Clean s)
    (isCut : s.cut c = true) (later : system.ReachableFrom Clean s t) :
    t.streams c = s.streams c := by
  suffices both : system.ReachableWhen Clean t ∧ t.cut c = true ∧ t.streams c = s.streams c from
    both.2.2
  refine later.invariant (P := fun t => system.ReachableWhen Clean t ∧ t.cut c = true ∧
    t.streams c = s.streams c) ?_ ⟨path, isCut, rfl⟩
  rintro t a ⟨reached, stillCut, same⟩ guard clean
  obtain ⟨cut', same'⟩ := broken_step (inv_reachable reached) stillCut a guard
  exact ⟨reached.step a guard clean, cut', same'.trans same⟩

/-! ## What a client gets -/

/-- The first bytes of the frame of `m`, `tail`, have been sent to `c` and the rest is on its
way. -/
def Sending (s : State) (c : ConnId) (m : Message) (tail : List UInt8) : Prop :=
  ∃ l, s.loop = some l ∧ l.begun = some c ∧ l.sent = tail.length ∧ s.current = some m

/-- What was delivered to `c` is complete frames, in the order of the mutex, and then at most
part of one. If that part is not the beginning of the frame being sent, no byte follows in any
run of steps that meet `ok`. -/
def Intact (ok : State → Action → Prop) (s : State) (c : ConnId) : Prop :=
  ∃ sent tail, s.streams c = sent.flatMap wire ++ tail ∧
    ((tail = [] ∧ sent <+ s.txLog) ∨
      ∃ m, (sent ++ [m]) <+ s.txLog ∧ tail <+: wire m ∧ tail ≠ wire m ∧
        (Sending s c m tail ∨ ∀ t, system.ReachableFrom ok s t → t.streams c = s.streams c))

/-- **Outgoing stream integrity**, in every run in which no frame is started behind a broken
one before the socket is shut down and no half-sent frame's fd is handed to a new connection:
what a client is sent is a sequence of complete frames, in the order in which their senders
took `g_tx_mutex`, and at most one broken frame behind which nothing is ever sent. -/
theorem outgoing_stream_integrity (s : State) (path : system.ReachableWhen Clean s) (c : ConnId) :
    Intact Clean s c := by
  have inv := inv_reachable path
  by_cases isBegun : ∃ l, s.loop = some l ∧ l.begun = some c
  · obtain ⟨l, looping, begun⟩ := isBegun
    obtain ⟨-, m, isCurrent, total, -, more⟩ := inv.looping l looping
    have isLength : ((wire m).take l.sent).length = l.sent := by
      rw [List.length_take]
      omega
    refine ⟨s.delivered c, (wire m).take l.sent, inv.sending l m c looping begun isCurrent, .inr
      ⟨m, ?_, List.take_prefix _ _, ?_, .inl ⟨l, looping, begun, isLength.symm, isCurrent⟩⟩⟩
    · rw [txLog_of_current isCurrent]
      exact (inv.begun l c looping begun).2.2.2.1.append_right [m]
    · intro isWhole
      rw [isWhole] at isLength
      omega
  · cases isCut : s.cut c with
    | true =>
        obtain ⟨m, tail, stream, inOrder, isPrefix, proper⟩ := inv.broken c isCut
        exact ⟨s.delivered c, tail, stream, .inr ⟨m, inOrder, isPrefix, proper,
          .inr fun t later => broken_forever path isCut later⟩⟩
    | false =>
        refine ⟨s.delivered c, [], ?_, .inl ⟨rfl, inv.ordered c⟩⟩
        rw [List.append_nil]
        apply inv.whole c isCut
        intro l looping begun
        exact isBegun ⟨l, looping, begun⟩

/-! ## A broken frame, and one behind it -/

/-- A message of one byte; its frame has four. -/
def shortMessage : Message := ⟨6, [8]⟩

/-- A client is served; a broadcast to it breaks off after two bytes. -/
def brokenSchedule : List Action :=
  [.server (.accept 5), .server (.registerClient 0 5), .server (.countClient 0 5),
   .server (.createTask 0 5 true),
   .server (.sendStart 0), .encode 0 shortMessage, .server (.sendSnapshot 0),
   .sendLockedTo (.broadcast 0 [] []) 5 shortMessage,
   .sent (.broadcast 0 [] []) ⟨5, 3, 4, 0, none⟩ 0 shortMessage 2,
   .failed (.broadcast 0 [] []) ⟨5, 3, 4, 2, some 0⟩, .server (.sendDone 0 [⟨5, some 0⟩])]

theorem outgoing_stream_integrity_broken :
    ∃ s, system.ReachableWhen Clean s ∧ s.streams 0 = [0, 1] ∧ Intact Clean s 0 := by
  have path := system.reachable_finalFrom Clean system.init brokenSchedule
  exact ⟨_, path, by decide +kernel, outgoing_stream_integrity _ path 0⟩

/-- Before the socket is shut down, another task broadcasts. -/
def behindSchedule : List Action :=
  [.server (.sendStart 1), .encode 1 shortMessage, .server (.sendSnapshot 1),
   .sendLockedTo (.broadcast 1 [] []) 5 shortMessage,
   .sent (.broadcast 1 [] []) ⟨5, 3, 4, 0, none⟩ 0 shortMessage 4]

/-- Two bytes are no complete frame. -/
theorem sent_eq_nil {sent : List Message} {tail bytes : List UInt8} (short : bytes.length < 3)
    (stream : bytes = sent.flatMap wire ++ tail) : sent = [] ∧ tail = bytes := by
  cases sent with
  | nil => exact ⟨rfl, by simpa using stream.symm⟩
  | cons m rest =>
      have frame := three_le_length_wire m
      have lengths := congrArg List.length stream
      simp only [List.flatMap_cons, List.length_append] at lengths
      omega

/-- The client gets two bytes of one frame and then all of the next. -/
theorem frame_behind_broken : ∃ s c, system.Reachable s ∧ ¬ Intact always s c := by
  have later := system.reachable_finalFrom always (system.final brokenSchedule) behindSchedule
  refine ⟨_, 0, system.reachable_final brokenSchedule, ?_⟩
  have first : (system.final brokenSchedule).streams 0 = [0, 1] := by decide +kernel
  have more : (system.finalFrom always (system.final brokenSchedule) behindSchedule).streams 0 =
      [0, 1, 0, 1, 6, 8] := by decide +kernel
  have noLoop : (system.final brokenSchedule).loop = none := by decide +kernel
  rintro ⟨sent, tail, stream, complete | ⟨m, -, -, -, ⟨l, looping, -⟩ | silent⟩⟩
  · rw [first] at stream
    have isTail := (sent_eq_nil (by decide) stream).2
    rw [complete.1] at isTail
    cases isTail
  · rw [noLoop] at looping
    cases looping
  · have same := silent _ later
    rw [first, more] at same
    cases same

end NimbleProxy.Api.Outgoing
