/-
# Api.Sessions -- what a client is answered while everything else is sent

Puts `dispatch_one` under the tasks of `Api.Outgoing`: a connection task takes a frame off
its socket, calls `handshake::handle` while it holds `g_tx_mutex`, ships the answer, and
gives anything else to `bt_handlers::handle`, whose own messages go out as broadcasts.
What a client sends in its lifetime, and how its bytes arrive, is an arbitrary `Source`.
The broadcasts of all other tasks are interleaved with the answers.

`State.handled` is bookkeeping: the requests of each connection for which `handle` was
called, in their order.

Each client reads, among the broadcasts, the answers to its own requests: in their order,
none twice, none of another client, and all of them once its task waits for the next
request (`answers_in_order`).
-/
import NimbleProxy.Api.Handshake
import NimbleProxy.Api.StreamIntegrity

namespace NimbleProxy.Api.Sessions

open NimbleProxy.Theory NimbleProxy.Api.Server ActionSystem
open NimbleProxy.Api.FrameCodec (Message FrameOut readFrame parseFrame)
open NimbleProxy.Api.Messages NimbleProxy.Api.Handshake
open NimbleProxy.Api.Outgoing (Clean Unlocked wire)
open scoped List

set_option autoImplicit false

/-! ## State -/

/-- Where a connection task is in `dispatch_one`. -/
inductive TaskPc
  /-- about to read a frame -/
  | reading
  /-- a frame was read; about to take `g_tx_mutex` -/
  | received (request : Message)
  /-- in `bt_handlers::handle` -/
  | handling (request : Message)
  /-- `read_frame` failed -/
  | failed
  deriving DecidableEq

/-- The request that was read but not looked at. -/
def TaskPc.pending : TaskPc → List Message
  | .received request => [request]
  | _ => []

@[simp] theorem pending_reading : TaskPc.reading.pending = [] := rfl

@[simp] theorem pending_failed : TaskPc.failed.pending = [] := rfl

@[simp] theorem pending_handling (request : Message) : (TaskPc.handling request).pending = [] := rfl

structure State where
  out : Outgoing.State := {}
  /-- what is still to come from each client -/
  inbox : ConnId → Source
  /-- `rx_payload` -/
  rx : ConnId → Memory := fun _ _ => 0
  tasks : ConnId → TaskPc := fun _ => .reading
  handled : ConnId → List Message := fun _ => []

/-- The requests that were read. -/
def State.requests (s : State) (c : ConnId) : List Message :=
  s.handled c ++ (s.tasks c).pending

def State.setTask (s : State) (c : ConnId) (pc : TaskPc) : State :=
  { s with tasks := Function.update s.tasks c pc }

/-- Somebody answers `c` right now. -/
def Answering (o : Outgoing.State) (c : ConnId) : Prop := o.replying.map Prod.fst = some c

instance (o : Outgoing.State) (c : ConnId) : Decidable (Answering o c) :=
  inferInstanceAs (Decidable (_ = _))

/-! ## dispatch_one -/

/-- `read_frame` of `dispatch_one`. -/
def receive (s : State) (c : ConnId) : State :=
  match readFrame (s.inbox c) 2048 ⟨s.rx c, 0, 0⟩ with
  | (.ok, out, src) =>
      { s.setTask c (.received ⟨out.typeOut, out.payloadBuf.load 0 out.payloadLenOut⟩) with
        inbox := Function.update s.inbox c src
        rx := Function.update s.rx c out.payloadBuf }
  | (_, out, src) =>
      { s.setTask c .failed with
        inbox := Function.update s.inbox c src
        rx := Function.update s.rx c out.payloadBuf }

/-- `handshake::handle` and what `dispatch_one` makes of its result. -/
def dispatch (id : Identity) (s : State) (c : ConnId) (fd : Fd) (request : Message) : State :=
  let result := handle id request.type 2048
  let s := { s with handled := Function.update s.handled c (s.handled c ++ [request]) }
  if result.handled then
    if result.responseType ≠ 0 then
      { s.setTask c .reading with
        out := Outgoing.effect s.out
          (.reply c fd ⟨result.responseType, result.payload⟩ result.closeAfter) }
    else s.setTask c .reading
  else s.setTask c (.handling request)

/-! ## The system -/

inductive Action
  /-- a step of the server or of `send_locked_to` -/
  | out (a : Outgoing.Action)
  /-- `send_async` takes the mutex and encodes a record -/
  | broadcast (t : SenderId) (r : Response)
  | receive (c : ConnId) (fd : Fd)
  | dispatch (c : ConnId) (fd : Fd) (request : Message)
  /-- `bt_handlers::handle` returns -/
  | handled (c : ConnId) (request : Message)

/-- What is a step here too: messages have a record, answers a request, and a task ends its
loop when `dispatch_one` returned false. -/
def Within (s : State) : Outgoing.Action → Prop
  | .encode .. | .reply .. => False
  | .server (.endLoop c _) => s.tasks c = .failed ∨ s.out.leaving c = true
  | _ => True

instance (s : State) : (a : Outgoing.Action) → Decidable (Within s a)
  | .encode .. | .reply .. => inferInstanceAs (Decidable False)
  | .server a =>
      match a with
      | .endLoop .. => inferInstanceAs (Decidable (_ ∨ _))
      | .accept .. | .registerClient .. | .countClient .. | .refuse .. | .createTask ..
      | .createUnregister .. | .createDiscount .. | .createClose .. | .released ..
      | .unregister .. | .discount .. | .checkLast .. | .teardownDone .. | .close ..
      | .sendStart .. | .sendEncode .. | .sendSnapshot .. | .sendOne .. | .sendDone ..
      | .reap .. => inferInstanceAs (Decidable True)
  | .sendLockedTo .. | .sent .. | .failed .. => inferInstanceAs (Decidable True)

def Guard (s : State) : Action → Prop
  | .out a => Outgoing.Guard s.out a ∧ Within s a
  -- the numbers of the handshake are below 66
  | .broadcast t r => Outgoing.Guard s.out (.encode t r.message) ∧ 66 ≤ r.type.toNat
  | .receive c fd => s.tasks c = .reading ∧ s.out.server.conns c = some (.running, fd) ∧
      s.out.leaving c = false ∧ ¬ Answering s.out c
  | .dispatch c fd request => s.tasks c = .received request ∧
      s.out.server.conns c = some (.running, fd) ∧ Unlocked s.out
  | .handled c request => s.tasks c = .handling request

instance (s : State) : (a : Action) → Decidable (Guard s a)
  | .out a => inferInstanceAs (Decidable (Outgoing.Guard s.out a ∧ Within s a))
  | .broadcast .. => inferInstanceAs (Decidable (_ ∧ _ ≤ _))
  | .receive .. => inferInstanceAs (Decidable (_ = _ ∧ _ = _ ∧ _ = _ ∧ ¬ _))
  | .dispatch .. => inferInstanceAs (Decidable (_ = _ ∧ _ = _ ∧ _))
  | .handled .. => inferInstanceAs (Decidable (_ = _))

def effect (id : Identity) (s : State) : Action → State
  | .out a => { s with out := Outgoing.effect s.out a }
  | .broadcast t r => { s with out := Outgoing.effect s.out (.encode t r.message) }
  | .receive c _ => receive s c
  | .dispatch c fd request => dispatch id s c fd request
  | .handled c _ => s.setTask c .reading

def system (id : Identity) (inbox : ConnId → Source) : ActionSystem State Action where
  init := { inbox }
  Guard := Guard
  guardDecidable := inferInstance
  effect := effect id

/-- The condition of `Outgoing`: nothing is written behind a broken frame. -/
def Undamaged (s : State) : Action → Prop
  | .out a => Clean s.out a
  | _ => True

instance (s : State) : (a : Action) → Decidable (Undamaged s a)
  | .out a => inferInstanceAs (Decidable (Clean s.out a))
  | .broadcast .. | .receive .. | .dispatch .. | .handled .. => inferInstanceAs (Decidable True)

/-! ## Answers among the messages of a client -/

/-- A message of the handshake. -/
def isAnswer (m : Message) : Bool := m.type.toNat < 66

def answersIn (ms : List Message) : List Message := ms.filter isAnswer

/-- What was due to client `c`, against what it has been delivered: all of it while its task is
in the loop, and all but what is being sent while it is answered. A task that leaves may have
failed to send the last. -/
structure Kept (o : Outgoing.State) (c : ConnId) (owed : List Message) : Prop where
  answering : Answering o c → ∃ m, o.current = some m ∧ isAnswer m = true ∧
    owed = answersIn (o.delivered c) ++ [m]
  serving : ¬ Answering o c → o.leaving c = false → owed = answersIn (o.delivered c)
  leaving : ¬ Answering o c → o.leaving c = true →
    ∃ lost : List Message, owed = answersIn (o.delivered c) ++ lost ∧ lost.length ≤ 1

/-- A message that nobody asked for is no answer. -/
def Spoken (o : Outgoing.State) : Prop :=
  ∀ m, o.current = some m → o.replying = none → isAnswer m = false

section

variable {o o' : Outgoing.State} {c d : ConnId} {owed : List Message} {fd : Fd} {m : Message}
  {closeAfter : Bool}

theorem answersIn_append (ms more : List Message) :
    answersIn (ms ++ more) = answersIn ms ++ answersIn more := List.filter_append ..

theorem not_answering (free : o.replying = none) : ¬ Answering o c := by
  intro answering
  rw [Answering, free] at answering
  cases answering

/-- Nothing that counts has changed. -/
theorem Kept.congr (kept : Kept o c owed) (replying : o'.replying = o.replying)
    (leaving : o'.leaving c = o.leaving c)
    (answers : answersIn (o'.delivered c) = answersIn (o.delivered c))
    (current : o.replying ≠ none → o'.current = o.current) : Kept o' c owed := by
  have same : Answering o' c ↔ Answering o c := by
    rw [Answering, Answering, replying]
  refine ⟨fun answering => ?_, fun idle stays => ?_, fun idle leaves => ?_⟩
  · have here := same.mp answering
    rw [current fun free => not_answering free here, answers]
    exact kept.answering here
  · rw [answers]
    exact kept.serving (fun here => idle (same.mpr here)) (leaving ▸ stays)
  · rw [answers]
    exact kept.leaving (fun here => idle (same.mpr here)) (leaving ▸ leaves)

/-- The answer was sent, all of it or not: for its client nothing else changes, and for the
others nothing. -/
theorem Kept.replied (kept : Kept o c owed) (replying : o.replying = some (d, closeAfter))
    (isCurrent : o.current = some m) (sent : Bool) (free : o'.replying = none)
    (leaving : o'.leaving = Function.update o.leaving d (!sent || closeAfter))
    (delivered : o'.delivered = Function.update o.delivered d
      (if sent then o.delivered d ++ [m] else o.delivered d)) : Kept o' c owed := by
  have idle : ¬ Answering o' c := not_answering free
  by_cases same : c = d
  · subst same
    obtain ⟨m', isCurrent', isAnswer', owes⟩ := kept.answering (by rw [Answering, replying]; rfl)
    obtain rfl := Option.some.inj (isCurrent.symm.trans isCurrent')
    have one : answersIn [m] = [m] := by rw [answersIn, List.filter_cons_of_pos isAnswer']; rfl
    have now := congrFun delivered c
    have leaves := congrFun leaving c
    rw [Function.update_self] at now leaves
    cases sent with
    | true =>
        have got : owed = answersIn (o'.delivered c) := by
          rw [now, if_pos rfl, answersIn_append, one]
          exact owes
        exact ⟨fun here => absurd here idle, fun _ _ => got, fun _ _ => ⟨[], by simp [got]⟩⟩
    | false =>
        refine ⟨fun here => absurd here idle, fun _ stays => ?_, fun _ _ => ⟨[m], ?_, le_rfl⟩⟩
        · rw [leaves] at stays
          cases stays
        · rw [now]
          exact owes
  · have other : ¬ Answering o c := by
      intro here
      rw [Answering, replying] at here
      exact same (Option.some.inj here).symm
    have now : o'.delivered c = o.delivered c := by
      rw [delivered, Function.update_of_ne same]
    have leaves : o'.leaving c = o.leaving c := by
      rw [leaving, Function.update_of_ne same]
    refine ⟨fun here => absurd here idle, fun _ stays => ?_, fun _ gone => ?_⟩
    · rw [now]
      exact kept.serving other (leaves ▸ stays)
    · rw [now]
      exact kept.leaving other (leaves ▸ gone)

end

/-! ## The steps of the output -/

/-- A step that takes no message from anybody. -/
def Silent : Outgoing.Action → Prop
  | .encode .. | .reply .. => False
  | _ => True

section

variable {o : Outgoing.State} {c d : ConnId} {owed : List Message} {fd : Fd} {m : Message}
  {closeAfter : Bool} {a : Outgoing.Action}

/-- Who broadcasts holds the mutex, so nobody is answered. -/
theorem free_of_broadcast (inv : Outgoing.Inv o) (send : SendInv o.server) {t : SenderId}
    {rest : List Fd} {dead : List Dead}
    (sending : o.server.senders t = .sending rest dead) : o.replying = none := by
  have holds : o.server.txHolder = some t := (send.holder t).mp (by rw [sending]; rfl)
  cases isReply : o.replying with
  | none => rfl
  | some reply =>
      have idle := (inv.single reply.1 reply.2 isReply).1
      rw [holds] at idle
      cases idle

/-- A step of the server lets go of the mutex, or leaves the messages alone. -/
theorem serverStep_messages (a : Server.Action) :
    (Outgoing.serverStep o a).replying = o.replying ∧
      (Outgoing.serverStep o a).leaving = o.leaving ∧
      (Outgoing.serverStep o a).delivered = o.delivered ∧
      (Outgoing.serverStep o a).txLog = o.txLog ∧
      ((Outgoing.serverStep o a).current = o.current ∨
        ∃ t dead, a = .sendDone t dead ∧ (Outgoing.serverStep o a).current = none) := by
  unfold Outgoing.serverStep
  split
  · exact ⟨rfl, rfl, rfl, Outgoing.txLog_giveTx o, .inr ⟨_, _, rfl, rfl⟩⟩
  · exact ⟨rfl, rfl, rfl, rfl, .inl rfl⟩

/-- A silent step keeps what is due to everybody. -/
theorem kept_silent (inv : Outgoing.Inv o) (reg : RegInv o.server) (send : SendInv o.server)
    (spoken : Spoken o) (kept : Kept o c owed) (guard : Outgoing.Guard o a) (silent : Silent a) :
    Kept (Outgoing.effect o a) c owed := by
  cases a with
  | server a =>
      obtain ⟨replying, leaving, delivered, -, current⟩ := serverStep_messages (o := o) a
      refine kept.congr replying (congrFun leaving c)
        (congrArg answersIn (congrFun delivered c)) fun busy => ?_
      rcases current with same | ⟨t, dead, rfl, -⟩
      · exact same
      · exact absurd (free_of_broadcast inv send guard.1.1) busy
  | encode t m => exact silent.elim
  | reply d fd m closeAfter => exact silent.elim
  | sendLockedTo caller fd m => exact kept.congr rfl rfl rfl fun _ => rfl
  | sent caller l d m k =>
      obtain ⟨calls, -, isCurrent, isOpen, -⟩ := guard
      simp only [Outgoing.effect, Outgoing.sent]
      split
      · exact kept.congr rfl rfl rfl fun _ => rfl
      · cases caller with
        | broadcast t rest dead =>
            have free := free_of_broadcast inv send calls
            have noAnswer : answersIn [m] = [] := by
              rw [answersIn, List.filter_cons_of_neg (by rw [spoken m isCurrent free]; decide)]
              rfl
            refine kept.congr rfl rfl ?_ fun _ => rfl
            by_cases same : c = d
            · subst same
              simp [Outgoing.returned, Outgoing.sendBytes, answersIn_append, noAnswer]
            · simp [Outgoing.returned, Outgoing.sendBytes, Function.update_of_ne same]
        | reply e closeAfter =>
            -- the socket is the one of the connection that is answered
            have same := reg.isOpen e .running l.fd calls.2
            rw [isOpen] at same
            obtain rfl := Option.some.inj same
            exact kept.replied calls.1 isCurrent true rfl rfl rfl
  | failed caller l =>
      obtain ⟨calls, looping⟩ := guard
      cases caller with
      | broadcast t rest dead => exact kept.congr rfl rfl rfl fun _ => rfl
      | reply d closeAfter =>
          obtain ⟨-, m, isCurrent, -⟩ := inv.looping l looping
          refine kept.replied calls.1 isCurrent false rfl rfl ?_
          simp [Outgoing.effect, Outgoing.failed, Outgoing.returned, Outgoing.State.giveTx]

theorem txLog_silent (silent : Silent a) : (Outgoing.effect o a).txLog = o.txLog := by
  cases a with
  | server a => exact (serverStep_messages a).2.2.2.1
  | encode t m => exact silent.elim
  | reply d fd m closeAfter => exact silent.elim
  | sendLockedTo caller fd m => rfl
  | sent caller l d m k =>
      simp only [Outgoing.effect, Outgoing.sent]
      split
      · rfl
      · rw [Outgoing.returned_txLog]
        rfl
  | failed caller l =>
      simp only [Outgoing.effect, Outgoing.failed]
      rw [Outgoing.returned_txLog]
      rfl

theorem spoken_silent (spoken : Spoken o) (silent : Silent a) :
    Spoken (Outgoing.effect o a) := by
  cases a with
  | server a =>
      obtain ⟨replying, -, -, -, current⟩ := serverStep_messages (o := o) a
      intro m isCurrent free
      rcases current with same | ⟨t, dead, rfl, gone⟩
      · exact spoken m (same ▸ isCurrent) (replying ▸ free)
      · cases gone.symm.trans isCurrent
  | encode t m => exact silent.elim
  | reply d fd m closeAfter => exact silent.elim
  | sendLockedTo caller fd m => exact spoken
  | sent caller l d m k =>
      simp only [Outgoing.effect, Outgoing.sent]
      split
      · exact spoken
      · cases caller with
        | broadcast t rest dead => exact spoken
        | reply e closeAfter =>
            rintro m ⟨⟩
  | failed caller l =>
      cases caller with
      | broadcast t rest dead => exact spoken
      | reply e closeAfter =>
          rintro m ⟨⟩

end

/-! ## The invariant -/

/-- These messages are the first frames of a stream, and this is left of it. -/
inductive Takes (ending : Ending) (bytes : List UInt8) : List Message → List UInt8 → Prop
  | nil : Takes ending bytes [] bytes
  | snoc {ms : List Message} {rest rest' : List UInt8} {m : Message} :
      Takes ending bytes ms rest → parseFrame 2048 ending rest = ⟨.ok m, rest'⟩ →
      Takes ending bytes (ms ++ [m]) rest'

/-- The answers to the requests that were handled, as they are framed. -/
def State.owed (id : Identity) (s : State) (c : ConnId) : List Message :=
  ((s.handled c).filterMap (reply id)).map Response.message

structure Inv (id : Identity) (inbox : ConnId → Source) (s : State) : Prop where
  out : Outgoing.system.ReachableWhen Clean s.out
  spoken : Spoken s.out
  kept : ∀ c, Kept s.out c (s.owed id c)
  /-- a task that has read a request is in the loop, and nobody answers it -/
  received : ∀ c request, s.tasks c = .received request →
    s.out.leaving c = false ∧ ¬ Answering s.out c
  records : ∀ m ∈ s.out.txLog, ∃ r : Response, r.message = m ∧ r.Fits
  ending : ∀ c, (s.inbox c).ending = (inbox c).ending
  /-- until reading fails, what is left of the stream is what is left in the inbox -/
  takes : ∀ c, ∃ rest, Takes (inbox c).ending (inbox c).bytes (s.requests c) rest ∧
    (s.tasks c = .failed ∨ (s.inbox c).bytes = rest)

section

variable {id : Identity} {inbox : ConnId → Source} {s : State} {c : ConnId} {fd : Fd}
  {request : Message}

theorem inv_init : Inv id inbox { inbox } where
  out := .refl
  spoken := by
    rintro m ⟨⟩
  kept := fun c => ⟨nofun, fun _ _ => rfl, nofun⟩
  received := nofun
  records := by simp [Outgoing.State.txLog]
  ending := fun _ => rfl
  takes := fun _ => ⟨_, .nil, .inr rfl⟩

theorem Inv.outgoing (inv : Inv id inbox s) :
    Outgoing.Inv s.out ∧ RegInv s.out.server ∧ SendInv s.out.server :=
  ⟨Outgoing.inv_reachable inv.out, Outgoing.server_reachable inv.out.reachable⟩

/-- Who is left alone by a silent step is not answered, and does not leave. -/
theorem received_silent {a : Outgoing.Action} (silent : Silent a) (guard : Outgoing.Guard s.out a)
    (loop : s.out.leaving c = false) (idle : ¬ Answering s.out c) :
    (Outgoing.effect s.out a).leaving c = false ∧ ¬ Answering (Outgoing.effect s.out a) c := by
  cases a with
  | server a =>
      obtain ⟨replying, leaving, -⟩ := serverStep_messages (o := s.out) a
      refine ⟨(congrFun leaving c).trans loop, fun here => idle ?_⟩
      rw [Answering, ← replying]
      exact here
  | encode t m => exact silent.elim
  | reply d fd m closeAfter => exact silent.elim
  | sendLockedTo caller fd m => exact ⟨loop, idle⟩
  | sent caller l d m k =>
      simp only [Outgoing.effect, Outgoing.sent]
      split
      · exact ⟨loop, idle⟩
      · cases caller with
        | broadcast t rest dead => exact ⟨loop, idle⟩
        | reply e closeAfter =>
            have other : c ≠ e := by
              rintro rfl
              exact idle (by rw [Answering, guard.1.1]; rfl)
            exact ⟨(Function.update_of_ne other ..).trans loop, not_answering rfl⟩
  | failed caller l =>
      cases caller with
      | broadcast t rest dead => exact ⟨loop, idle⟩
      | reply e closeAfter =>
          have other : c ≠ e := by
            rintro rfl
            exact idle (by rw [Answering, guard.1.1]; rfl)
          exact ⟨(Function.update_of_ne other ..).trans loop, not_answering rfl⟩

theorem silent_of_within {a : Outgoing.Action} (within : Within s a) : Silent a := by
  cases a with
  | encode t m | reply d fd m closeAfter => exact within
  | server a | sendLockedTo caller fd m | sent caller l d m k | failed caller l => trivial

theorem inv_out (inv : Inv id inbox s) {a : Outgoing.Action} (guard : Outgoing.Guard s.out a)
    (within : Within s a) (clean : Clean s.out a) :
    Inv id inbox { s with out := Outgoing.effect s.out a } := by
  obtain ⟨outInv, reg, send⟩ := inv.outgoing
  have silent := silent_of_within within
  exact {
    out := inv.out.step a guard clean
    spoken := spoken_silent inv.spoken silent
    kept := fun c => kept_silent outInv reg send inv.spoken (inv.kept c) guard silent
    received := fun c request isReceived =>
      received_silent silent guard (inv.received c request isReceived).1
        (inv.received c request isReceived).2
    records := fun m inside => inv.records m (txLog_silent silent ▸ inside)
    ending := inv.ending
    takes := inv.takes }

/-- A message enters the log behind those before it. -/
theorem txLog_taken (inv : Outgoing.Inv s.out) (free : Unlocked s.out) {o : Outgoing.State}
    {m : Message} (earlier : o.earlier = s.out.earlier) (current : o.current = some m) :
    o.txLog = s.out.txLog ++ [m] := by
  have empty : s.out.current = none := inv.locked.mpr free
  rw [Outgoing.State.txLog, Outgoing.State.txLog, earlier, current, empty]
  simp

theorem records_taken (inv : Inv id inbox s) (free : Unlocked s.out) {o : Outgoing.State}
    {r : Response} (fits : r.Fits) (earlier : o.earlier = s.out.earlier)
    (current : o.current = some r.message) :
    ∀ m ∈ o.txLog, ∃ r : Response, r.message = m ∧ r.Fits := by
  intro m inside
  rw [txLog_taken inv.outgoing.1 free earlier current] at inside
  rcases List.mem_append.mp inside with before | new
  · exact inv.records m before
  · exact ⟨r, (List.mem_singleton.mp new).symm, fits⟩

theorem inv_broadcast (inv : Inv id inbox s) {t : SenderId} {r : Response}
    (guard : Outgoing.Guard s.out (.encode t r.message)) (noAnswer : 66 ≤ r.type.toNat) :
    Inv id inbox { s with out := Outgoing.effect s.out (.encode t r.message) } where
  out := inv.out.step _ guard trivial
  spoken := by
    rintro m ⟨⟩ -
    exact decide_eq_false (Nat.not_lt.mpr noAnswer)
  kept := fun c => (inv.kept c).congr rfl rfl rfl fun busy => absurd guard.2.1.2 busy
  received := inv.received
  records := records_taken inv guard.2.1 guard.2.2.2 rfl rfl
  ending := inv.ending
  takes := inv.takes

/-- A frame that `read_frame` takes is the one that the parser finds. -/
theorem parseFrame_of_readFrame {src src' : Source} {out out' : FrameOut}
    (read : readFrame src 2048 out = (.ok, out', src')) :
    parseFrame 2048 src.ending src.bytes =
        ⟨.ok ⟨out'.typeOut, out'.payloadBuf.load 0 out'.payloadLenOut⟩, src'.bytes⟩ ∧
      src'.ending = src.ending := by
  have agrees := FrameCodec.readFrame_agrees src 2048 out
  rw [read] at agrees
  refine ⟨?_, agrees.ending⟩
  have reports := agrees.reports
  have rest := agrees.rest
  cases parsed : parseFrame 2048 src.ending src.bytes with
  | mk result left_ =>
      rw [parsed] at reports rest
      cases result with
      | error e => exact absurd rfl reports.2.1
      | ok m =>
          obtain ⟨-, type, length, payload⟩ := reports
          simp only at type length payload rest
          rw [type, length, payload, rest]

/-- A task of the loop that nobody answers goes on, with another rest of its stream. -/
theorem inv_read (inv : Inv id inbox s) (loop : s.out.leaving c = false)
    (idle : ¬ Answering s.out c) (pc : TaskPc) (src : Source) (rx : ConnId → Memory)
    (ending : src.ending = (s.inbox c).ending)
    (takes : ∃ rest, Takes (inbox c).ending (inbox c).bytes (s.handled c ++ pc.pending) rest ∧
      (pc = .failed ∨ src.bytes = rest)) :
    Inv id inbox { s.setTask c pc with inbox := Function.update s.inbox c src, rx } where
  out := inv.out
  spoken := inv.spoken
  kept := inv.kept
  received := by
    intro d request isReceived
    by_cases mine : d = c
    · subst mine
      exact ⟨loop, idle⟩
    · simp only [State.setTask, Function.update_of_ne mine] at isReceived
      exact inv.received d request isReceived
  records := inv.records
  ending := by
    intro d
    by_cases mine : d = c
    · subst mine
      simp only [Function.update_self]
      exact ending.trans (inv.ending d)
    · simp only [Function.update_of_ne mine]
      exact inv.ending d
  takes := by
    intro d
    by_cases mine : d = c
    · subst mine
      simpa [State.requests, State.setTask] using takes
    · simpa [State.requests, State.setTask, Function.update_of_ne mine] using inv.takes d

/-- The frame that was read is the next one of the stream. -/
theorem inv_receive (inv : Inv id inbox s) (reading : s.tasks c = .reading)
    (loop : s.out.leaving c = false) (idle : ¬ Answering s.out c) :
    Inv id inbox (receive s c) := by
  obtain ⟨rest, takes, isFailed | isLeft⟩ := inv.takes c
  · rw [reading] at isFailed
    cases isFailed
  rw [State.requests, reading, pending_reading, List.append_nil] at takes
  have agrees := FrameCodec.readFrame_agrees (s.inbox c) 2048 ⟨s.rx c, 0, 0⟩
  unfold receive
  split
  · rename_i out src read
    obtain ⟨parsed, ending⟩ := parseFrame_of_readFrame read
    rw [isLeft, inv.ending c] at parsed
    exact inv_read inv loop idle _ src _ ending ⟨src.bytes, takes.snoc parsed, .inr rfl⟩
  · rename_i e out src notOk read
    have ending := agrees.ending
    rw [read] at ending
    exact inv_read inv loop idle .failed src _ ending
      ⟨rest, by rwa [pending_failed, List.append_nil], .inl rfl⟩

/-! ### Handling a request -/

/-- What is due grows by the answer to the request that is handled. -/
theorem owed_handled (s' : State)
    (handled : s'.handled = Function.update s.handled c (s.handled c ++ [request])) (d : ConnId) :
    s'.owed id d = s.owed id d ++
      if d = c then ((reply id request).map Response.message).toList else [] := by
  unfold State.owed
  rw [handled]
  by_cases mine : d = c
  · subst mine
    rw [Function.update_self, List.filterMap_append, List.map_append, if_pos rfl]
    cases answers : reply id request <;> simp [answers]
  · rw [Function.update_of_ne mine, if_neg mine, List.append_nil]

/-- The request that was read is handled, and its task goes on to `pc`. -/
theorem takes_handled (inv : Inv id inbox s) (isReceived : s.tasks c = .received request)
    {s' : State} {pc : TaskPc} (inbox_ : s'.inbox = s.inbox)
    (handled : s'.handled = Function.update s.handled c (s.handled c ++ [request]))
    (tasks : s'.tasks = Function.update s.tasks c pc) (nothing : pc.pending = []) (d : ConnId) :
    ∃ rest, Takes (inbox d).ending (inbox d).bytes (s'.requests d) rest ∧
      (s'.tasks d = .failed ∨ (s'.inbox d).bytes = rest) := by
  obtain ⟨rest, takes, unread⟩ := inv.takes d
  refine ⟨rest, ?_, ?_⟩
  · by_cases mine : d = c
    · subst mine
      rw [State.requests, isReceived] at takes
      rw [State.requests, handled, tasks, Function.update_self, Function.update_self, nothing,
        List.append_nil]
      exact takes
    · rw [State.requests, handled, tasks, Function.update_of_ne mine, Function.update_of_ne mine]
      exact takes
  · rw [inbox_, tasks]
    by_cases mine : d = c
    · subst mine
      rw [isReceived] at unread
      rcases unread with never | same
      · cases never
      · exact .inr same
    · rw [Function.update_of_ne mine]
      exact unread

/-- A request without an answer. -/
theorem inv_unanswered (inv : Inv id inbox s) (isReceived : s.tasks c = .received request)
    (noReply : reply id request = none) (pc : TaskPc)
    (next : pc.pending = []) :
    Inv id inbox { s.setTask c pc with
      handled := Function.update s.handled c (s.handled c ++ [request]) } where
  out := inv.out
  spoken := inv.spoken
  kept := by
    intro d
    rw [owed_handled (s := s) _ rfl d, noReply, Option.map_none, Option.toList_none, ite_self,
      List.append_nil]
    exact inv.kept d
  received := by
    intro d request' isReceived'
    by_cases mine : d = c
    · subst mine
      simp only [State.setTask, Function.update_self] at isReceived'
      rw [isReceived'] at next
      cases next
    · simp only [State.setTask, Function.update_of_ne mine] at isReceived'
      exact inv.received d request' isReceived'
  records := inv.records
  ending := inv.ending
  takes := takes_handled inv isReceived rfl rfl rfl next

/-- The answer is due from the moment its frame is made. -/
theorem kept_reply (fd : Fd) {o : Outgoing.State} {owed : List Message} {d : ConnId} {m : Message}
    {closeAfter : Bool} (kept : Kept o d owed) (free : Unlocked o) (loop : o.leaving c = false)
    (answer : isAnswer m = true) :
    Kept (Outgoing.effect o (.reply c fd m closeAfter)) d
      (owed ++ if d = c then [m] else []) := by
  have idle : ¬ Answering o d := not_answering free.2
  by_cases mine : d = c
  · subst mine
    have here : Answering (Outgoing.effect o (.reply d fd m closeAfter)) d := rfl
    refine ⟨fun _ => ⟨m, rfl, answer, ?_⟩, fun never => absurd here never,
      fun never => absurd here never⟩
    rw [if_pos rfl, kept.serving idle loop]
    rfl
  · have other : ¬ Answering (Outgoing.effect o (.reply c fd m closeAfter)) d := by
      intro here
      exact mine (Option.some.inj here).symm
    rw [if_neg mine, List.append_nil]
    exact ⟨fun here => absurd here other, fun _ => kept.serving idle, fun _ => kept.leaving idle⟩

theorem inv_answered (inv : Inv id inbox s) (isReceived : s.tasks c = .received request)
    (running : s.out.server.conns c = some (.running, fd)) (free : Unlocked s.out) {r : Response}
    (answers : reply id request = some r) (closeAfter : Bool) :
    Inv id inbox { s.setTask c .reading with
      handled := Function.update s.handled c (s.handled c ++ [request])
      out := Outgoing.effect s.out (.reply c fd r.message closeAfter) } := by
  obtain ⟨loop, idle⟩ := inv.received c request isReceived
  obtain ⟨fits, small⟩ := reply_cases answers
  have answer : isAnswer r.message = true := decide_eq_true small
  exact {
    out := inv.out.step _ ⟨running, loop, free, type_ne_zero r, fits⟩ trivial
    spoken := by
      rintro m - never
      cases never
    kept := by
      intro d
      rw [owed_handled (s := s) _ rfl d, answers]
      exact kept_reply fd (inv.kept d) free loop answer
    received := by
      intro d request' isReceived'
      by_cases mine : d = c
      · subst mine
        simp only [State.setTask, Function.update_self] at isReceived'
        cases isReceived'
      · simp only [State.setTask, Function.update_of_ne mine] at isReceived'
        refine ⟨(inv.received d request' isReceived').1, fun here => ?_⟩
        exact mine (Option.some.inj here).symm
    records := records_taken inv free fits rfl rfl
    ending := inv.ending
    takes := takes_handled inv isReceived rfl rfl rfl rfl }

theorem inv_dispatch (inv : Inv id inbox s) (isReceived : s.tasks c = .received request)
    (running : s.out.server.conns c = some (.running, fd)) (free : Unlocked s.out) :
    Inv id inbox (dispatch id s c fd request) := by
  unfold dispatch
  rw [handle_eq]
  cases answers : reply id request with
  | some r =>
      simp only [Result.sends, if_true, ne_eq, type_ne_zero, not_false_eq_true]
      exact inv_answered inv isReceived running free answers _
  | none =>
      simp only [ne_eq, not_true, if_false]
      split
      · exact inv_unanswered inv isReceived answers .reading rfl
      · exact inv_unanswered inv isReceived answers (.handling request) rfl

/-- `bt_handlers::handle` returns. -/
theorem inv_handled (inv : Inv id inbox s) (isHandling : s.tasks c = .handling request) :
    Inv id inbox (s.setTask c .reading) where
  out := inv.out
  spoken := inv.spoken
  kept := inv.kept
  received := by
    intro d request' isReceived
    by_cases mine : d = c
    · subst mine
      simp only [State.setTask, Function.update_self] at isReceived
      cases isReceived
    · simp only [State.setTask, Function.update_of_ne mine] at isReceived
      exact inv.received d request' isReceived
  records := inv.records
  ending := inv.ending
  takes := by
    intro d
    obtain ⟨rest, takes, unread⟩ := inv.takes d
    by_cases mine : d = c
    · subst mine
      rw [State.requests, isHandling] at takes
      rw [isHandling] at unread
      refine ⟨rest, ?_, .inr (unread.resolve_left (by simp))⟩
      simpa [State.requests, State.setTask] using takes
    · refine ⟨rest, ?_, ?_⟩
      · simpa [State.requests, State.setTask, Function.update_of_ne mine] using takes
      · simpa [State.setTask, Function.update_of_ne mine] using unread

theorem inv_step (inv : Inv id inbox s) (a : Action) (guard : Guard s a) (clean : Undamaged s a) :
    Inv id inbox (effect id s a) := by
  cases a with
  | out a => exact inv_out inv guard.1 guard.2 clean
  | broadcast t r => exact inv_broadcast inv guard.1 guard.2
  | receive c fd => exact inv_receive inv guard.1 guard.2.2.1 guard.2.2.2
  | dispatch c fd request => exact inv_dispatch inv guard.1 guard.2.1 guard.2.2
  | handled c request => exact inv_handled inv guard

end

theorem inv_reachable {id : Identity} {inbox : ConnId → Source} {s : State}
    (path : (system id inbox).ReachableWhen Undamaged s) : Inv id inbox s :=
  path.invariant (fun _ a inv guard clean => inv_step inv a guard clean) inv_init

/-! ## The client's end -/

/-- The messages of the complete frames that have arrived, at most `fuel` of them. -/
def arrived : Nat → List UInt8 → List Message
  | 0, _ => []
  | fuel + 1, bytes =>
      match parseFrame 2048 .eof bytes with
      | ⟨.ok m, rest⟩ => m :: arrived fuel rest
      | _ => []

/-- What a client makes of the bytes it has received. -/
def listen (bytes : List UInt8) : List (Option Response) :=
  (arrived bytes.length bytes).map Response.decode

/-- A proper part of a frame is no frame. -/
theorem parseFrame_part {m m' : Message} {tail rest : List UInt8} (fits : m.Fits 2048)
    (part : tail <+: wire m) (proper : tail ≠ wire m) (ending : Ending) :
    parseFrame 2048 ending tail ≠ ⟨.ok m', rest⟩ := by
  intro parsed
  obtain ⟨more, whole⟩ := part
  -- with the missing bytes it would be the frame of another message, or of this one with a rest
  have longer : parseFrame 2048 ending (wire m) = ⟨.ok m', rest ++ more⟩ := by
    obtain ⟨sizeBytes, typeBytes, bytes, isSize, isType, short⟩ :=
      FrameCodec.parseFrame_ok_iff.mp parsed
    refine FrameCodec.parseFrame_ok_iff.mpr ⟨sizeBytes, typeBytes, ?_, isSize, isType, short⟩
    rw [← whole, bytes]
    simp
  have exact_ := FrameCodec.parseFrame_frame fits (fun _ => 0) ending []
  rw [List.append_nil, FrameCodec.frame_eq _ m fits.2.1] at exact_
  have same := longer.symm.trans exact_
  have nothing : rest ++ more = [] := congrArg FrameCodec.Parsed.rest same
  rw [(List.append_eq_nil_iff.mp nothing).2, List.append_nil] at whole
  exact proper whole

/-- Complete frames, and then at most part of one, are those frames to a reader. -/
theorem arrived_frames {ms : List Message} (fits : ∀ m ∈ ms, m.Fits 2048) {tail : List UInt8}
    (noFrame : ∀ m rest, parseFrame 2048 .eof tail ≠ ⟨.ok m, rest⟩) {fuel : Nat}
    (enough : ms.length ≤ fuel) : arrived fuel (ms.flatMap wire ++ tail) = ms := by
  induction ms generalizing fuel with
  | nil =>
      cases fuel with
      | zero => rfl
      | succ fuel =>
          rw [List.flatMap_nil, List.nil_append, arrived]
          split
          · rename_i m rest parsed
            exact absurd parsed (noFrame m rest)
          · rfl
  | cons m ms ih =>
      rw [List.length_cons] at enough
      obtain ⟨fuel, rfl⟩ : ∃ n, fuel = n + 1 := ⟨fuel - 1, by omega⟩
      have short := fits m List.mem_cons_self
      have first := FrameCodec.parseFrame_frame short (fun _ => 0) .eof (ms.flatMap wire ++ tail)
      rw [FrameCodec.frame_eq _ m short.2.1] at first
      rw [List.flatMap_cons, List.append_assoc, arrived]
      show (match parseFrame 2048 .eof (wire m ++ (ms.flatMap wire ++ tail)) with
        | ⟨.ok m, rest⟩ => m :: arrived fuel rest
        | _ => []) = m :: ms
      rw [wire, first]
      show m :: arrived fuel _ = m :: ms
      rw [ih (fun m' inside => fits m' (List.mem_cons_of_mem _ inside)) (by omega)]

/-- Every frame takes a byte, and more. -/
theorem length_le_flatMap_wire (ms : List Message) : ms.length ≤ (ms.flatMap wire).length := by
  induction ms with
  | nil => exact Nat.le_refl _
  | cons m ms ih =>
      have three := Outgoing.three_le_length_wire m
      rw [List.flatMap_cons, List.length_append, List.length_cons]
      omega

/-- The stream of a client is what it was delivered, and then at most part of a frame. -/
theorem stream_shape {o : Outgoing.State} (inv : Outgoing.Inv o) (c : ConnId) :
    ∃ tail, o.streams c = (o.delivered c).flatMap wire ++ tail ∧
      (tail = [] ∨ ∃ m ∈ o.txLog, tail <+: wire m ∧ tail ≠ wire m) := by
  by_cases isBegun : ∃ l, o.loop = some l ∧ l.begun = some c
  · obtain ⟨l, looping, begun⟩ := isBegun
    obtain ⟨-, m, isCurrent, total, -, more⟩ := inv.looping l looping
    refine ⟨_, inv.sending l m c looping begun isCurrent, .inr ⟨m, ?_, List.take_prefix _ _, ?_⟩⟩
    · rw [Outgoing.txLog_of_current isCurrent]
      exact List.mem_append_right _ (List.mem_singleton.mpr rfl)
    · intro isWhole
      have lengths := congrArg List.length isWhole
      rw [List.length_take] at lengths
      omega
  · cases isCut : o.cut c with
    | true =>
        obtain ⟨m, tail, stream, inOrder, isPrefix, proper⟩ := inv.broken c isCut
        have inside := inOrder.subset (List.mem_append_right _ (List.mem_singleton.mpr rfl))
        exact ⟨tail, stream, .inr ⟨m, inside, isPrefix, proper⟩⟩
    | false =>
        refine ⟨[], ?_, .inl rfl⟩
        rw [List.append_nil]
        apply inv.whole c isCut
        intro l looping begun
        exact isBegun ⟨l, looping, begun⟩

/-- Messages that have records, as records. -/
theorem exists_records {ms : List Message} (records : ∀ m ∈ ms, ∃ r : Response, r.message = m ∧ r.Fits) :
    ∃ rs : List Response, rs.map Response.message = ms ∧ ∀ r ∈ rs, r.Fits := by
  induction ms with
  | nil => exact ⟨[], rfl, nofun⟩
  | cons m ms ih =>
      obtain ⟨r, rfl, fits⟩ := records m List.mem_cons_self
      obtain ⟨rs, rfl, all⟩ := ih fun m' inside => records m' (List.mem_cons_of_mem _ inside)
      exact ⟨r :: rs, rfl, List.forall_mem_cons.mpr ⟨fits, all⟩⟩

/-- Records that fit are told apart by their messages. -/
theorem records_inj {rs rs' : List Response} (fits : ∀ r ∈ rs, r.Fits) (fits' : ∀ r ∈ rs', r.Fits)
    (same : rs.map Response.message = rs'.map Response.message) : rs = rs' := by
  have decoded : ∀ rs : List Response, (∀ r ∈ rs, r.Fits) →
      (rs.map Response.message).map Response.decode = rs.map some := by
    intro rs fits
    rw [List.map_map]
    exact List.map_congr_left fun r inside => (fits r inside).decode
  have both := congrArg (List.map Response.decode) same
  rw [decoded rs fits, decoded rs' fits'] at both
  exact List.map_injective_iff.mpr (Option.some_injective _) both

/-! ## Answers in order -/

/-- A record of the handshake. -/
def isHandshake (r : Response) : Bool := r.type.toNat < 66

/-- The task of the connection waits for a request. -/
def Waiting (s : State) (c : ConnId) : Prop :=
  s.tasks c = .reading ∧ s.out.leaving c = false ∧ ¬ Answering s.out c

instance (s : State) (c : ConnId) : Decidable (Waiting s c) :=
  inferInstanceAs (Decidable (_ ∧ _ ∧ ¬ _))

/-- What the client has read of the handshake, against what it asked for. -/
structure Conversation (id : Identity) (inbox : ConnId → Source) (s : State) (c : ConnId)
    (read : List Response) : Prop where
  /-- the client can read everything it was sent -/
  readable : listen (s.out.streams c) = read.map some
  /-- the requests are the frames of its stream, from the first on -/
  asked : ∃ rest, Takes (inbox c).ending (inbox c).bytes (s.requests c) rest
  /-- at most one answer is missing, the last -/
  answered : ∃ missing : List Response, missing.length ≤ 1 ∧
    (s.requests c).filterMap (reply id) = read.filter isHandshake ++ missing ∧
    (Waiting s c → missing = [])

/-- What is due to a client, in one form for all positions of its task. -/
theorem Kept.lost {o : Outgoing.State} {c : ConnId} {owed : List Message} (kept : Kept o c owed) :
    ∃ lost : List Message, owed = answersIn (o.delivered c) ++ lost ∧ lost.length ≤ 1 ∧
      (¬ Answering o c → o.leaving c = false → lost = []) := by
  by_cases answering : Answering o c
  · obtain ⟨m, -, -, owes⟩ := kept.answering answering
    exact ⟨[m], owes, le_rfl, fun idle => absurd answering idle⟩
  · cases leaves : o.leaving c with
    | false =>
        refine ⟨[], ?_, Nat.zero_le _, fun _ _ => rfl⟩
        rw [List.append_nil]
        exact kept.serving answering leaves
    | true =>
        obtain ⟨lost, owes, few⟩ := kept.leaving answering leaves
        exact ⟨lost, owes, few, nofun⟩

theorem answersIn_records (rs : List Response) :
    answersIn (rs.map Response.message) = (rs.filter isHandshake).map Response.message :=
  List.filter_map

/-- The answers to the requests that were handled, against those among the records delivered. -/
theorem answers_of_owed {id : Identity} {s : State} {c : ConnId} {rs : List Response}
    {lost : List Message} (fits : ∀ r ∈ rs, r.Fits)
    (owes : s.owed id c = answersIn (rs.map Response.message) ++ lost) :
    ∃ missing : List Response, missing.map Response.message = lost ∧
      (s.handled c).filterMap (reply id) = rs.filter isHandshake ++ missing := by
  have answersFit : ∀ r ∈ (s.handled c).filterMap (reply id), r.Fits := by
    intro r inside
    obtain ⟨request, -, answers⟩ := List.mem_filterMap.mp inside
    exact (reply_cases answers).1
  rw [State.owed, answersIn_records] at owes
  obtain ⟨first, missing, split, firstIs, missingIs⟩ := List.map_eq_append_iff.mp owes
  rw [split] at answersFit
  refine ⟨missing, missingIs, ?_⟩
  rw [split, records_inj (fun r inside => answersFit r (List.mem_append_left _ inside))
    (fun r inside => fits r (List.mem_of_mem_filter inside)) firstIs]

theorem conversation {id : Identity} {inbox : ConnId → Source} {s : State}
    (inv : Inv id inbox s) (c : ConnId) : ∃ read, Conversation id inbox s c read := by
  obtain ⟨outInv, -, -⟩ := inv.outgoing
  obtain ⟨tail, stream, shape⟩ := stream_shape outInv c
  have ordered := (outInv.ordered c).subset
  obtain ⟨rs, delivered, fits⟩ := exists_records fun m inside => inv.records m (ordered inside)
  have framed : ∀ m ∈ s.out.delivered c, m.Fits 2048 := by
    intro m inside
    rw [← delivered] at inside
    obtain ⟨r, among, rfl⟩ := List.mem_map.mp inside
    exact (fits r among).message
  have noFrame : ∀ m rest, parseFrame 2048 .eof tail ≠ ⟨.ok m, rest⟩ := by
    intro m rest
    rcases shape with rfl | ⟨m', inside, part, proper⟩
    · rintro ⟨⟩
    · obtain ⟨r, rfl, fits'⟩ := inv.records m' inside
      exact parseFrame_part fits'.message part proper .eof
  obtain ⟨lost, owes, few, none_⟩ := (inv.kept c).lost
  rw [← delivered] at owes
  obtain ⟨missing, missingIs, answers⟩ := answers_of_owed fits owes
  have count : missing.length = lost.length := by rw [← missingIs, List.length_map]
  refine ⟨rs, ?_, ?_, ?_⟩
  · have enough : (s.out.delivered c).length ≤ (s.out.streams c).length := by
      have frames := length_le_flatMap_wire (s.out.delivered c)
      rw [stream, List.length_append]
      omega
    have frames := arrived_frames framed noFrame enough
    rw [← stream] at frames
    rw [listen, frames, ← delivered, List.map_map]
    exact List.map_congr_left fun r inside => (fits r inside).decode
  · obtain ⟨rest, takes, -⟩ := inv.takes c
    exact ⟨rest, takes⟩
  · by_cases isReceived : ∃ request, s.tasks c = .received request
    · -- nothing is missing of what was handled; the request is still to be looked at
      obtain ⟨request, isReceived⟩ := isReceived
      obtain ⟨loop, idle⟩ := inv.received c request isReceived
      have nothing : missing = [] := by
        rw [← List.length_eq_zero_iff, count, none_ idle loop]
        rfl
      refine ⟨[request].filterMap (reply id), List.length_filterMap_le .., ?_, ?_⟩
      · rw [State.requests, isReceived, List.filterMap_append, answers, nothing, List.append_nil]
        rfl
      · rintro ⟨reading, -⟩
        rw [isReceived] at reading
        cases reading
    · have pending : (s.tasks c).pending = [] := by
        cases task : s.tasks c with
        | received request => exact absurd ⟨request, task⟩ isReceived
        | reading | handling request | failed => rfl
      refine ⟨missing, by rw [count]; exact few, ?_, ?_⟩
      · rw [State.requests, pending, List.append_nil]
        exact answers
      · rintro ⟨-, loop, idle⟩
        rw [← List.length_eq_zero_iff, count, none_ idle loop]
        rfl

/-- **Every client gets its answers, in order, among the broadcasts of everybody.** Whatever the
clients send and however it arrives, in every run in which nothing is written behind a broken
frame: what a client has been sent reads as records of the API; the requests its task has read
are the frames of its stream; and the handshake records it reads are the answers to those
requests, in their order, without the last at most, and without exception when its task waits
for the next request. -/
theorem answers_in_order (id : Identity) (inbox : ConnId → Source) (s : State)
    (path : (system id inbox).ReachableWhen Undamaged s) (c : ConnId) :
    ∃ read, Conversation id inbox s c read :=
  conversation (inv_reachable path) c

def anyProxy : Identity where
  hostname := "nimble-proxy"
  wifiMac := none
  btMac := none
  date := "Jan  1 2026"
  time := "00:00:00"
  ble := true

/-- Every client sends a ping and closes. -/
def pings : ConnId → Source := fun _ => ⟨[0, 0, 7], .eof, fun _ => 0, 0⟩

/-- A client is accepted, and its ping is answered; then a message is broadcast. -/
def pingSchedule : List Action :=
  [.out (.server (.accept 5)), .out (.server (.registerClient 0 5)),
   .out (.server (.countClient 0 5)), .out (.server (.createTask 0 5 true)),
   .receive 0 5, .dispatch 0 5 ⟨7, []⟩, .out (.sendLockedTo (.reply 0 false) 5 ⟨8, []⟩),
   .out (.sent (.reply 0 false) ⟨5, 3, 3, 0, none⟩ 0 ⟨8, []⟩ 3),
   .out (.server (.sendStart 1)), .broadcast 1 (.servicesDone 9),
   .out (.server (.sendSnapshot 1)), .out (.sendLockedTo (.broadcast 1 [] []) 5 ⟨72, [8, 9]⟩),
   .out (.sent (.broadcast 1 [] []) ⟨5, 3, 5, 0, none⟩ 0 ⟨72, [8, 9]⟩ 5),
   .out (.server (.sendDone 1 []))]

theorem answers_in_order_ping :
    ∃ s, (system anyProxy pings).ReachableWhen Undamaged s ∧ Waiting s 0 ∧
      s.out.streams 0 = [0, 0, 8, 0, 2, 72, 8, 9] ∧
      ∃ read, Conversation anyProxy pings s 0 read := by
  have path := (system anyProxy pings).reachable_finalFrom Undamaged (system anyProxy pings).init
    pingSchedule
  exact ⟨_, path, by decide +kernel, by decide +kernel, answers_in_order anyProxy pings _ path 0⟩

end NimbleProxy.Api.Sessions
