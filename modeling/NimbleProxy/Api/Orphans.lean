/-
# Api.Orphans -- links without a client, and who is still to end them

The last client to leave calls `disconnect_all`, which visits every slot once.
`Accounted` is what that is meant to achieve: while no client is counted, every
slot with an attempt or a link that nobody has asked to end has a connection task
still on its way to it, either before its look at `g_active_count` or in its
sweep before that slot. With every task gone and no NimBLE event owed, all slots
are then Free.

Two steps break it. `disconnect` does nothing to a Connecting slot, so a visit to
one is lost and the link that comes up later stays. And a listener that counted a
client whose task it then cannot create takes the count back to zero without
looking for the last client, although its client made another task skip the
teardown. In runs without these (`Attends`) no link is left (`no_orphan_links`).
-/
import NimbleProxy.Api.Responses

namespace NimbleProxy.Api.Devices

open NimbleProxy.Theory NimbleProxy.Backend NimbleProxy.Api.Server ActionSystem

set_option autoImplicit false

/-! ## Who is still to visit a slot -/

/-- An attempt or a link that nobody has asked to end. -/
def Unended (slot : Slot) : Prop :=
  slot.state = .connecting ∨ slot.state = .connected

instance (slot : Slot) : Decidable (Unended slot) :=
  inferInstanceAs (Decidable (_ ∨ _))

/-- A teardown here is still to call `disconnect` for slot `i`, which has this address. -/
def DevicePc.before (i : SlotIdx) (address : UInt64) : DevicePc → Bool
  | .idle => true
  | .refused _ | .sending _ => false
  | .sweep j => decide (j ≤ i)
  | .readAddress j => decide (j ≤ i)
  | .visit j a => decide (j < i ∨ j = i ∧ a = address)

/-- The task of connection `c` is still to look for the last client, or to visit slot `i`
in its teardown. -/
def Visits (s : State) (i : SlotIdx) (c : ConnId) : Prop :=
  s.pos c = some .checkingLast ∨
    s.pos c = some .teardown ∧ (s.devices c).before i (s.backend.slots i).address = true

instance (s : State) (i : SlotIdx) : DecidablePred (Visits s i) :=
  fun _ => inferInstanceAs (Decidable (_ = _ ∨ _ = _ ∧ _ = true))

/-- While no client is counted, a slot nobody has asked to end has a visitor. -/
def Accounted (s : State) : Prop :=
  connsAt s.server ConnAt.counted = 0 →
    ∀ i, Unended (s.backend.slots i) → ∃ c, c < s.server.nextConn ∧ Visits s i c

/-- A step that loses no slot: a teardown that runs while no client is counted does not
meet a Connecting slot, and a listener that gives up the only counted client leaves
no slot without a visitor. -/
def Attends (s : State) : Action → Prop
  | .visit _ _ address => connsAt s.server ConnAt.counted = 0 →
      ∀ i, s.backend.slots.findByAddrLocked address = some i →
        (s.backend.slots i).state ≠ .connecting
  | .server (.createDiscount _ _) => connsAt s.server ConnAt.counted = 1 →
      ∀ i, Unended (s.backend.slots i) → ∃ c, c < s.server.nextConn ∧ Visits s i c
  | _ => True

instance (s : State) : (a : Action) → Decidable (Attends s a)
  | .visit .. => inferInstanceAs (Decidable (_ → ∀ _ : SlotIdx, _ → _))
  | .server (.createDiscount ..) =>
      inferInstanceAs (Decidable (_ → ∀ i, Unended _ → ∃ c, c < s.server.nextConn ∧ Visits s i c))
  | .server (.accept ..) | .server (.registerClient ..) | .server (.countClient ..)
  | .server (.refuse ..) | .server (.createTask ..) | .server (.createUnregister ..)
  | .server (.createClose ..) | .server (.endLoop ..) | .server (.released ..)
  | .server (.unregister ..) | .server (.discount ..) | .server (.checkLast ..)
  | .server (.teardownDone ..) | .server (.close ..) | .server (.sendStart ..)
  | .server (.sendEncode ..) | .server (.sendSnapshot ..) | .server (.sendOne ..)
  | .server (.sendDone ..) | .server (.reap ..)
  | .backend _ | .request .. | .refuse .. | .broadcast .. | .hostBroadcast _ | .sweepStart _
  | .sweepState .. | .readAddress .. => inferInstanceAs (Decidable True)

/-! ## Where the tasks are -/

/-- The position of a connection whose task is here. -/
def DevicePc.place : DevicePc → Option ConnAt
  | .idle => none
  | .refused _ | .sending _ => some .running
  | .sweep _ | .readAddress _ | .visit .. => some .teardown

/-- A task is inside a handler only while its connection runs it; a teardown enters
`disconnect` only. -/
structure Fits (device : DevicePc) (task : Connection.TaskPc) (pos : Option ConnAt) : Prop where
  device : ∀ p, device.place = some p → pos = some p
  task : task = .idle ∨ pos = some .running ∨
    pos = some .teardown ∧ ∃ client, task = .disconnectCall client

def Placed (s : State) : Prop :=
  ∀ c, Fits (s.devices c) (s.backend.tasks c) (s.pos c)

section

variable {s s' : State} {c : ConnId} {pos : ConnAt} {fd : Fd}

theorem fits_idle (pos : Option ConnAt) : Fits .idle .idle pos :=
  ⟨nofun, .inl rfl⟩

theorem pos_of_conn (held : s.server.conns c = some (pos, fd)) : s.pos c = some pos := by
  rw [State.pos, held]
  rfl

/-- Only connection `c` or its task moved. -/
theorem Placed.change (placed : Placed s)
    (here : Fits (s'.devices c) (s'.backend.tasks c) (s'.pos c))
    (others : ∀ d, d ≠ c → s'.devices d = s.devices d ∧ s'.backend.tasks d = s.backend.tasks d ∧
      s'.pos d = s.pos d) : Placed s' := by
  intro d
  by_cases isC : d = c
  · rw [isC]
    exact here
  · obtain ⟨device, task, pos⟩ := others d isC
    rw [device, task, pos]
    exact placed d

/-- Outside its loop and its teardown a connection's task is in no handler. -/
theorem Placed.ready (placed : Placed s) (held : s.server.conns c = some (pos, fd))
    (notRunning : pos ≠ .running) (notTeardown : pos ≠ .teardown) : Ready s c .idle := by
  have fits := placed c
  rw [pos_of_conn held] at fits
  constructor
  · have nowhere := fits.device
    cases device : s.devices c with
    | idle => rfl
    | refused address | sending r =>
        exact absurd (Option.some.inj (nowhere .running (by rw [device]; rfl))) notRunning
    | sweep i | readAddress i | visit i address =>
        exact absurd (Option.some.inj (nowhere .teardown (by rw [device]; rfl))) notTeardown
  · rcases fits.task with idle | running | ⟨teardown, -⟩
    · exact idle
    · exact absurd (Option.some.inj running) notRunning
    · exact absurd (Option.some.inj teardown) notTeardown

/-- A connection whose task is in no handler moves. -/
theorem Placed.move (placed : Placed s) (ready : Ready s c .idle) (next : Option (ConnAt × Fd))
    (conns : s'.server.conns = Function.update s.server.conns c next)
    (devices : s'.devices = s.devices) (backend : s'.backend = s.backend) : Placed s' := by
  refine placed.change (c := c) ?_ ?_
  · rw [devices, backend, ready.1, ready.2]
    exact fits_idle _
  · intro d other
    refine ⟨by rw [devices], by rw [backend], ?_⟩
    simp only [State.pos, conns, Function.update_of_ne other]

theorem placed_server (reg : RegInv s.server) (placed : Placed s) (a : Server.Action)
    (guard : Server.Guard s.server a) (returned : Returned s a) : Placed (serverStep s a) := by
  -- a connection away from its handlers moves on
  have moves : ∀ {c : ConnId} {pos : ConnAt} {fd : Fd} (next : Option (ConnAt × Fd)),
      s.server.conns c = some (pos, fd) → pos ≠ .running → pos ≠ .teardown →
      (Server.effect s.server a).conns = Function.update s.server.conns c next →
      Placed { s with server := Server.effect s.server a } :=
    fun next held notRunning notTeardown conns =>
      placed.move (placed.ready held notRunning notTeardown) next conns rfl rfl
  cases a with
  | accept fd =>
      have unborn : s.pos s.server.nextConn = none := by
        rw [State.pos, reg.unborn]
        rfl
      have fits := placed s.server.nextConn
      rw [unborn] at fits
      refine placed.change (c := s.server.nextConn) ⟨?_, ?_⟩ ?_
      · intro p place
        cases fits.device p place
      · rcases fits.task with idle | running | ⟨teardown, -⟩
        · exact .inl idle
        · cases running
        · cases teardown
      · intro d other
        refine ⟨rfl, rfl, ?_⟩
        simp only [serverStep, State.pos, Server.effect, accept, Function.update_of_ne other]
  | registerClient c fd =>
      cases entered : s.server.clientFds.enter fd with
      | some fds =>
          exact moves (some (.counting, fd)) guard (by decide) (by decide)
            (by simp only [Server.effect, registerClient, entered, State.moveTo])
      | none =>
          exact moves (some (.refused, fd)) guard (by decide) (by decide)
            (by simp only [Server.effect, registerClient, entered, State.moveTo])
  | createTask c fd created => cases created <;> exact moves _ guard (by decide) (by decide) rfl
  | countClient c fd | refuse c fd | createUnregister c fd | createDiscount c fd | createClose c fd
  | released c fd | unregister c fd | discount c fd | checkLast c fd | close c fd =>
      exact moves _ guard (by decide) (by decide) rfl
  | endLoop c fd => exact placed.move returned _ rfl rfl rfl
  | teardownDone c fd =>
      refine placed.change (c := c) ?_ ?_
      · have task : s.backend.tasks c = .idle := returned.2
        simp only [serverStep, State.setDevice, Function.update_self, task]
        exact fits_idle _
      · intro d other
        simp only [serverStep, State.setDevice, State.pos, Server.effect, State.moveTo,
          Function.update_of_ne other]
        exact ⟨trivial, trivial, trivial⟩
  | sendEncode t nonempty => cases nonempty <;> exact placed
  | sendStart t | sendSnapshot t | sendOne t fd rest dead sent | sendDone t dead | reap t dead =>
      exact placed

/-- Entering `disconnect`, the task goes on to hang up or is done. -/
theorem disconnectLocked_tasks {b : Connection.State} {t : Connection.TaskId}
    (idle : b.tasks t = .idle) (address : UInt64) :
    ((Connection.effect b (.disconnectLocked t address)).tasks t = .idle ∨
      ∃ client, (Connection.effect b (.disconnectLocked t address)).tasks t = .disconnectCall client) ∧
    ∀ u, u ≠ t → (Connection.effect b (.disconnectLocked t address)).tasks u = b.tasks u := by
  simp only [Connection.effect, Connection.disconnectLocked]
  split
  · exact ⟨.inl idle, fun _ _ => rfl⟩
  · split
    · refine ⟨?_, fun u other => Function.update_of_ne other _ _⟩
      simp only [Function.update_self]
      split
      · exact .inr ⟨_, rfl⟩
      · exact .inl rfl
    · exact ⟨.inl idle, fun _ _ => rfl⟩

theorem connectLocked_tasks (b : Connection.State) {t u : Connection.TaskId} (other : u ≠ t)
    (address : UInt64) (addressType : UInt8) :
    (Connection.effect b (.connectLocked t address addressType)).tasks u = b.tasks u := by
  simp only [Connection.effect, Connection.connectLocked]
  split
  · rfl
  · split
    · rfl
    · exact Function.update_of_ne other _ _

/-- Inside `connection.cpp` a task does not start anything, and a hang-up ends with its call. -/
theorem proceeds_tasks {b : Connection.State} {a : Connection.Action} (guard : Connection.Guard b a)
    (inside : a.enters = false) (t : Connection.TaskId) :
    (Connection.effect b a).tasks t = b.tasks t ∨
      b.tasks t ≠ .idle ∧
        ∀ client, b.tasks t = .disconnectCall client → (Connection.effect b a).tasks t = .idle := by
  rcases Connection.tasks_step guard with same | ⟨u, pc, moves⟩
  · exact .inl (congrFun same t)
  · by_cases here : t = u
    · subst here
      refine .inr ⟨?_, ?_⟩
      · intro idle
        rw [moves.entered idle] at inside
        cases inside
      · intro client hanging
        rw [moves.hangUp client hanging]
        exact Function.update_self ..
    · left
      rw [moves.tasks, Function.update_of_ne here]

theorem enters_of_proceeds {a : Connection.Action} (proceeds : Proceeds s a) : a.enters = false := by
  cases a <;> first | rfl | cases proceeds

/-- A task that is about to report an attempt it could not issue serves a client. -/
theorem Placed.running_of_released (placed : Placed s) {t : Connection.TaskId}
    {at_ : Connection.ReleasedAt} {f : Connection.Frame} {cb : Option ConnectCallback}
    (released : s.backend.tasks t = .released at_ f cb) : s.pos t = some .running := by
  rcases (placed t).task with idle | running | ⟨-, client, hanging⟩
  · rw [released] at idle
    cases idle
  · exact running
  · rw [released] at hanging
    cases hanging

/-- What a task that serves a client does to `devices` is at home there. -/
theorem place_sendAsync (r : Response) (p : ConnAt)
    (place : ((sendAsync s c r).devices c).place = some p) : p = .running := by
  unfold sendAsync at place
  split at place
  · simp only [State.setDevice, Function.update_self] at place
    cases place
  · simp only [State.setDevice, Function.update_self, DevicePc.place, Option.some.injEq] at place
    exact place.symm

theorem sendAsync_devices_of_ne {d : ConnId} (r : Response) (other : d ≠ c) :
    (sendAsync s c r).devices d = s.devices d := by
  unfold sendAsync
  split <;> simp only [State.setDevice, Function.update_of_ne other]

theorem placed_backend (placed : Placed s) (a : Connection.Action)
    (guard : Connection.Guard s.backend a) (proceeds : Proceeds s a) :
    Placed (effect s (.backend a)) := by
  have inside := enters_of_proceeds proceeds
  -- the tasks stay at home whatever happens to `devices`
  have task : ∀ t, (Connection.effect s.backend a).tasks t = .idle ∨ s.pos t = some .running ∨
      s.pos t = some .teardown ∧
        ∃ client, (Connection.effect s.backend a).tasks t = .disconnectCall client := by
    intro t
    rcases proceeds_tasks guard inside t with same | ⟨busy, hangUp⟩
    · rw [same]
      exact (placed t).task
    · rcases (placed t).task with idle | running | ⟨teardown, client, hanging⟩
      · exact absurd idle busy
      · exact .inr (.inl running)
      · exact .inl (hangUp client hanging)
  have at_ : ∀ t, (effect s (.backend a)).pos t = s.pos t := by
    intro t
    simp only [effect, State.pos, deliver_server]
  have fits : ∀ t, (deliver s a).devices t = s.devices t →
      Fits ((deliver s a).devices t) ((Connection.effect s.backend a).tasks t)
        ((effect s (.backend a)).pos t) := by
    intro t same
    rw [same, at_ t]
    exact ⟨(placed t).device, task t⟩
  intro t
  cases a with
  | connectCallback u f cb =>
      cases cb with
      | none => exact fits t rfl
      | some cb =>
          by_cases here : t = u
          · subst here
            have running := placed.running_of_released guard
            refine ⟨?_, by rw [at_ t]; exact task t⟩
            intro p place
            rw [at_ t, running, place_sendAsync _ p place]
          · exact fits t (sendAsync_devices_of_ne _ here)
  | hostCallback cb address r =>
      apply fits t
      cases cb with
      | none => rfl
      | some cb => exact congrFun (hostSendAsync_devices s _) t
  | connectLocked u address addressType | connectNotify u f | connectStopScan u f
  | connectIssue u f issued | connectUnissued u f | releaseNotify u f cb
  | disconnectLocked u address | disconnectCall u p | established p k | attemptFailed p k
  | linkLost p k announced | onConnect p k lost mtu | onConnectFail p k reason
  | onDisconnect p k reason | hostNotify | hostResume => exact fits t rfl

theorem placed_step (reg : RegInv s.server) (placed : Placed s) (a : Action) (guard : Guard s a) :
    Placed (effect s a) := by
  -- a task goes on to another step at the same place
  have device : ∀ {c : ConnId} (next : DevicePc) {p : ConnAt}, s.pos c = some p →
      next.place = none ∨ next.place = some p → Placed (s.setDevice c next) := by
    intro c next p here home
    refine placed.change (c := c) ⟨?_, (placed c).task⟩ ?_
    · intro q place
      simp only [State.setDevice, Function.update_self] at place
      rcases home with none_ | same
      · rw [none_] at place
        cases place
      · rw [same] at place
        cases place
        exact here
    · intro d other
      exact ⟨Function.update_of_ne other _ _, rfl, rfl⟩
  cases a with
  | server a => exact placed_server reg placed a guard.1 guard.2
  | backend a => exact placed_backend placed a guard.1 guard.2
  | request c req =>
      obtain ⟨running, -, idle⟩ := guard
      rcases handleDeviceRequest_cases s c req with same | ⟨address, addressType, next⟩ |
        ⟨address, next⟩
      · rw [effect, same]
        exact placed
      · rw [effect, next]
        refine placed.change (c := c) ⟨?_, .inr (.inl running)⟩ ?_
        · intro p place
          simp only [startConnect, State.setDevice, Function.update_self] at place
          split at place <;> cases place
          exact running
        · intro d other
          exact ⟨Function.update_of_ne other _ _, connectLocked_tasks _ other _ _, rfl⟩
      · rw [effect, next]
        exact placed.change (c := c) ⟨(placed c).device, .inr (.inl running)⟩ fun d other =>
          ⟨rfl, (disconnectLocked_tasks idle address).2 d other, rfl⟩
  | refuse c address =>
      have running : s.pos c = some .running := (placed c).device _ (by
        rw [show s.devices c = _ from guard]; rfl)
      simp only [effect, sendAsync]
      split
      · exact device .idle running (.inl rfl)
      · exact device (.sending (refusal address)) running (.inr rfl)
  | broadcast c r =>
      have running : s.pos c = some .running := (placed c).device _ (by
        rw [show s.devices c = _ from guard]; rfl)
      exact device .idle running (.inl rfl)
  | hostBroadcast r => exact placed
  | sweepStart c => exact device (.sweep 0) guard.1 (.inr rfl)
  | sweepState c i =>
      have teardown : s.pos c = some .teardown := (placed c).device _ (by rw [guard.1]; rfl)
      refine device _ teardown (.inr ?_)
      split <;> rfl
  | readAddress c i =>
      have teardown : s.pos c = some .teardown := (placed c).device _ (by
        rw [show s.devices c = _ from guard]; rfl)
      exact device (.visit i (s.backend.slots i).address) teardown (.inr rfl)
  | visit c i address =>
      have teardown : s.pos c = some .teardown := (placed c).device _ (by rw [guard.1]; rfl)
      obtain ⟨task, others⟩ := disconnectLocked_tasks guard.2 address
      refine placed.change (c := c) ⟨?_, ?_⟩ ?_
      · intro p place
        simp only [effect, visit, State.setDevice, Function.update_self] at place
        cases place
        exact teardown
      · exact task.imp_right fun hanging => .inr ⟨teardown, hanging⟩
      · intro d other
        exact ⟨Function.update_of_ne other _ _, others d other, rfl⟩

end

theorem placed_reachable {s : State} (path : system.Reachable s) : Placed s :=
  path.invariant_with (fun _ => server_reachable) (fun _ => fits_idle _)
    fun _ a reg placed guard => placed_step reg placed a guard

/-! ## Every allowed step keeps the slots accounted for -/

section

variable {s s' : State} {c : ConnId} {pos : ConnAt} {fd : Fd}

/-- A connection at a counted position is counted. -/
theorem counted_of_pos (reg : RegInv s.server) (here : s.pos c = some pos)
    (counted : pos.counted = true) : connsAt s.server ConnAt.counted ≠ 0 := by
  obtain ⟨⟨pos', fd⟩, held, rfl⟩ := Option.map_eq_some_iff.mp here
  have positive : 0 < connsAt s.server ConnAt.counted :=
    tally_pos.mpr ⟨c, Finset.mem_range.mpr (reg.known c _ _ held), (isAt_of_conn held).mpr counted⟩
  exact Nat.ne_of_gt positive

/-- A step that leaves the server alone keeps the visitors of the slots it leaves open. -/
theorem Accounted.keep (acc : Accounted s) (server : s'.server = s.server)
    (keeps : connsAt s.server ConnAt.counted = 0 → ∀ i, Unended (s'.backend.slots i) →
      Unended (s.backend.slots i) ∧ ∀ c, Visits s i c → Visits s' i c) : Accounted s' := by
  intro nobody i unended
  rw [server] at nobody ⊢
  obtain ⟨before, visits⟩ := keeps nobody i unended
  obtain ⟨c, born, visitor⟩ := acc nobody i before
  exact ⟨c, born, visits c visitor⟩

/-- A step of a client's task, while that client is counted. -/
theorem accounted_served (reg : RegInv s.server) (here : s.pos c = some pos)
    (counted : pos.counted = true) (server : s'.server = s.server) : Accounted s' := by
  intro nobody
  rw [server] at nobody
  exact absurd nobody (counted_of_pos reg here counted)

/-- Only `connect` opens a slot. -/
theorem unended_step {b : Connection.State} {a : Connection.Action} {i : SlotIdx}
    (noConnect : ∀ t address addressType, a ≠ .connectLocked t address addressType)
    (unended : Unended ((Connection.effect b a).slots i)) :
    Unended (b.slots i) ∧ ((Connection.effect b a).slots i).address = (b.slots i).address := by
  have step := Connection.slots_step b a i
  generalize (Connection.effect b a).slots i = after at step unended
  cases step with
  | same => exact ⟨unended, rfl⟩
  | claimed t address addressType isClaim => exact absurd isClaim (noConnect t address addressType)
  | unissued | ended | marked => rcases unended with h | h <;> cases h
  | up p k lost mtu isUp connecting => exact ⟨.inl connecting, rfl⟩

theorem accounted_backend (reg : RegInv s.server) (placed : Placed s) (acc : Accounted s)
    (a : Connection.Action) (guard : Connection.Guard s.backend a) (proceeds : Proceeds s a) :
    Accounted (effect s (.backend a)) := by
  have noConnect : ∀ t address addressType, a ≠ .connectLocked t address addressType := by
    rintro t address addressType rfl
    exact proceeds
  -- unless `devices` changes, the visitors are the same
  have same : (deliver s a).devices = s.devices → Accounted (effect s (.backend a)) := by
    intro devices
    refine acc.keep (deliver_server s a) ?_
    intro _ i unended
    obtain ⟨before, address⟩ := unended_step noConnect unended
    refine ⟨before, ?_⟩
    intro c visits
    simp only [Visits, State.pos, effect, deliver_server, devices, address]
    exact visits
  cases a with
  | connectCallback t f cb =>
      exact accounted_served reg (placed.running_of_released guard) rfl (deliver_server s _)
  | hostCallback cb address r =>
      apply same
      cases cb with
      | none => rfl
      | some cb => exact hostSendAsync_devices s _
  | connectLocked t address addressType | connectNotify t f | connectStopScan t f
  | connectIssue t f issued | connectUnissued t f | releaseNotify t f cb
  | disconnectLocked t address | disconnectCall t p | established p k | attemptFailed p k
  | linkLost p k announced | onConnect p k lost mtu | onConnectFail p k reason
  | onDisconnect p k reason | hostNotify | hostResume => exact same rfl

/-- The teardown of `c` goes on; it passes only slots that need no visit. -/
theorem accounted_sweep (acc : Accounted s) (next : DevicePc)
    (passes : ∀ i, Unended (s.backend.slots i) →
      (s.devices c).before i (s.backend.slots i).address = true →
        next.before i (s.backend.slots i).address = true) : Accounted (s.setDevice c next) := by
  refine acc.keep rfl ?_
  intro _ i unended
  refine ⟨unended, ?_⟩
  intro d visits
  apply visits.imp_right
  rintro ⟨teardown, before⟩
  refine ⟨teardown, ?_⟩
  simp only [State.setDevice, Function.update_apply]
  split
  · rename_i here
    subst here
    exact passes i unended before
  · exact before

/-- The visit of a Connected slot marks it. -/
theorem not_unended_visited {b : Connection.State} (inv : Connection.Inv b) {i : SlotIdx}
    (unended : Unended (b.slots i))
    (notConnecting : ∀ j, b.slots.findByAddrLocked (b.slots i).address = some j →
      (b.slots j).state ≠ .connecting) (t : Connection.TaskId) :
    ¬ Unended ((Connection.effect b (.disconnectLocked t (b.slots i).address)).slots i) := by
  have used : (b.slots i).state ≠ .free := by
    rcases unended with connecting | connected
    · rw [connecting]; decide
    · rw [connected]; decide
  have found := inv.lookupAddr used
  have connected := unended.resolve_left (notConnecting i found)
  simp [Connection.effect, Connection.disconnectLocked, found, connected, Unended]

theorem accounted_visit (inv : Connection.Inv s.backend) (acc : Accounted s) {i : SlotIdx}
    {address : UInt64} (ready : Ready s c (.visit i address))
    (attends : Attends s (.visit c i address)) : Accounted (visit s c i address) := by
  refine acc.keep rfl ?_
  intro nobody j unended
  obtain ⟨before, sameAddress⟩ := unended_step (by simp) unended
  refine ⟨before, ?_⟩
  intro d visits
  apply visits.imp_right
  rintro ⟨teardown, ahead⟩
  refine ⟨teardown, ?_⟩
  simp only [visit, State.setDevice, sameAddress, Function.update_apply]
  split
  · rename_i here
    subst here
    rw [ready.1] at ahead
    simp only [DevicePc.before, decide_eq_true_eq] at ahead ⊢
    rcases ahead with later | ⟨rfl, rfl⟩
    · exact Nat.succ_le_of_lt later
    · exact absurd unended (not_unended_visited inv before (attends nobody) d)
  · exact ahead

/-- A visitor other than the connection that moves. -/
theorem Visits.other {i : SlotIdx} {d : ConnId} {next : Option (ConnAt × Fd)} (visits : Visits s i d)
    (other : d ≠ c) (conns : s'.server.conns = Function.update s.server.conns c next)
    (devices : s'.devices d = s.devices d) (backend : s'.backend = s.backend) : Visits s' i d := by
  have pos : s'.pos d = s.pos d := by
    simp only [State.pos, conns, Function.update_of_ne other]
  unfold Visits
  rw [pos, devices, backend]
  exact visits

theorem pos_of_visits {i : SlotIdx} (visits : Visits s i c) :
    s.pos c = some .checkingLast ∨ s.pos c = some .teardown :=
  visits.imp_right And.left

/-- A connection moves and does not give up its count: who is not counted after was not before. -/
theorem nobody_before (reg : RegInv s.server) (nobody : connsAt s'.server ConnAt.counted = 0)
    (held : s.server.conns c = some (pos, fd)) (next : Option (ConnAt × Fd))
    (conns : s'.server.conns = Function.update s.server.conns c next)
    (nextConn : s'.server.nextConn = s.server.nextConn)
    (stays : pos.counted = true → next.any (fun at_ => at_.1.counted) = true) :
    connsAt s.server ConnAt.counted = 0 := by
  have moved := connsAt_move s'.server ConnAt.counted (reg.known c pos fd held) held next conns nextConn
  by_cases counted : pos.counted = true
  · rw [if_pos counted, if_pos (stays counted)] at moved
    omega
  · rw [if_neg counted] at moved
    omega

/-- A connection that visits nothing moves and does not give up its count. -/
theorem Accounted.move (acc : Accounted s) (reg : RegInv s.server)
    (held : s.server.conns c = some (pos, fd)) (next : Option (ConnAt × Fd))
    (conns : s'.server.conns = Function.update s.server.conns c next)
    (nextConn : s'.server.nextConn = s.server.nextConn) (devices : s'.devices = s.devices)
    (backend : s'.backend = s.backend)
    (stays : pos.counted = true → next.any (fun at_ => at_.1.counted) = true)
    (notChecking : pos ≠ .checkingLast) (notTeardown : pos ≠ .teardown) : Accounted s' := by
  intro nobody i unended
  rw [backend] at unended
  have nobodyBefore := nobody_before reg nobody held next conns nextConn stays
  obtain ⟨d, born, visits⟩ := acc nobodyBefore i unended
  have other : d ≠ c := by
    rintro rfl
    rcases pos_of_visits visits with checking | teardown
    · exact notChecking (Option.some.inj ((pos_of_conn held).symm.trans checking))
    · exact notTeardown (Option.some.inj ((pos_of_conn held).symm.trans teardown))
  exact ⟨d, by rw [nextConn]; exact born, visits.other other conns (by rw [devices]) backend⟩

theorem accounted_accept (acc : Accounted s) (fd : Fd) :
    Accounted { s with server := accept s.server fd } := by
  intro nobody i unended
  obtain ⟨d, born, visits⟩ := acc ((connsAt_accept s.server fd rfl).symm.trans nobody) i unended
  refine ⟨d, Nat.lt_succ_of_lt born, ?_⟩
  simp only [Visits, State.pos, accept_conns born]
  exact visits

/-- The last client is looked for: with nobody counted the teardown follows. -/
theorem accounted_checkLast (acc : Accounted s) (reg : RegInv s.server) (placed : Placed s)
    (held : s.server.conns c = some (.checkingLast, fd)) :
    Accounted { s with server := checkLast s.server c fd } := by
  intro nobody i unended
  have nobodyBefore := nobody_before reg nobody held _ rfl rfl (by simp [ConnAt.counted])
  have zero : s.server.activeCount = 0 := by rw [reg.count, nobodyBefore]; rfl
  obtain ⟨d, born, visits⟩ := acc nobodyBefore i unended
  refine ⟨d, born, ?_⟩
  by_cases here : d = c
  · subst here
    have idle := (placed.ready held (by decide) (by decide)).1
    refine .inr ⟨?_, by rw [idle]; rfl⟩
    simp [State.pos, checkLast, State.moveTo, zero]
  · exact visits.other here rfl rfl rfl

theorem accounted_server (reg : RegInv s.server) (placed : Placed s) (acc : Accounted s)
    (a : Server.Action) (guard : Server.Guard s.server a) (returned : Returned s a)
    (attends : Attends s (.server a)) : Accounted (serverStep s a) := by
  cases a with
  | accept fd => exact accounted_accept acc fd
  | registerClient c fd =>
      cases entered : s.server.clientFds.enter fd with
      | some fds =>
          exact acc.move reg guard (some (.counting, fd))
            (by simp only [serverStep, Server.effect, registerClient, entered, State.moveTo])
            (by simp only [serverStep, Server.effect, registerClient, entered, State.moveTo])
            rfl rfl (by simp [ConnAt.counted]) (by decide) (by decide)
      | none =>
          exact acc.move reg guard (some (.refused, fd))
            (by simp only [serverStep, Server.effect, registerClient, entered, State.moveTo])
            (by simp only [serverStep, Server.effect, registerClient, entered, State.moveTo])
            rfl rfl (by simp [ConnAt.counted]) (by decide) (by decide)
  | createTask c fd created =>
      cases created <;>
        exact acc.move reg guard _ rfl rfl rfl rfl (fun _ => rfl) (by decide) (by decide)
  | countClient c fd | createUnregister c fd | endLoop c fd | released c fd | unregister c fd =>
      exact acc.move reg guard _ rfl rfl rfl rfl (fun _ => rfl) (by decide) (by decide)
  | refuse c fd | createClose c fd | close c fd =>
      exact acc.move reg guard _ rfl rfl rfl rfl (by simp [ConnAt.counted]) (by decide) (by decide)
  | discount c fd =>
      intro _ i _
      have checking : (serverStep s (.discount c fd)).server.conns c = some (.checkingLast, fd) :=
        Function.update_self ..
      exact ⟨c, reg.known c _ fd guard, .inl (pos_of_conn checking)⟩
  | createDiscount c fd =>
      have held : s.server.conns c = some (.createDiscount, fd) := guard
      intro nobody i unended
      have moved := connsAt_move (serverStep s (.createDiscount c fd)).server ConnAt.counted
        (reg.known c _ fd held) held (some (.createClose, fd)) rfl rfl
      rw [nobody] at moved
      obtain ⟨d, born, visits⟩ := attends (by simpa [ConnAt.counted] using moved.symm) i unended
      have other : d ≠ c := by
        rintro rfl
        rcases pos_of_visits visits with checking | teardown
        · cases (pos_of_conn held).symm.trans checking
        · cases (pos_of_conn held).symm.trans teardown
      exact ⟨d, born, visits.other other rfl rfl rfl⟩
  | checkLast c fd => exact accounted_checkLast acc reg placed guard
  | teardownDone c fd =>
      have held : s.server.conns c = some (.teardown, fd) := guard
      intro nobody i unended
      have nobodyBefore := nobody_before reg nobody held _ rfl rfl (by simp [ConnAt.counted])
      obtain ⟨d, born, visits⟩ := acc nobodyBefore i unended
      have other : d ≠ c := by
        -- the sweep of `c` is past every slot
        rintro rfl
        rcases visits with checking | ⟨-, before⟩
        · cases (pos_of_conn held).symm.trans checking
        · rw [show s.devices d = _ from returned.1] at before
          exact absurd (of_decide_eq_true before) (Nat.not_le_of_lt i.isLt)
      exact ⟨d, born, visits.other other rfl (Function.update_of_ne other _ _) rfl⟩
  | sendEncode t nonempty => cases nonempty <;> exact acc
  | sendStart t | sendSnapshot t | sendOne t fd rest dead sent | sendDone t dead | reap t dead =>
      exact acc

theorem accounted_step (reg : RegInv s.server) (inv : Connection.Inv s.backend) (placed : Placed s)
    (acc : Accounted s) (a : Action) (guard : Guard s a) (attends : Attends s a) :
    Accounted (effect s a) := by
  cases a with
  | server a => exact accounted_server reg placed acc a guard.1 guard.2 attends
  | backend a => exact accounted_backend reg placed acc a guard.1 guard.2
  | request c req =>
      apply accounted_served reg guard.1 rfl
      rcases handleDeviceRequest_cases s c req with same | ⟨address, addressType, next⟩ |
        ⟨address, next⟩
      · rw [effect, same]
      · rw [effect, next, startConnect, State.setDevice]
      · rw [effect, next]
  | refuse c address =>
      have running : s.pos c = some .running := (placed c).device _ (by
        rw [show s.devices c = _ from guard]; rfl)
      exact accounted_served reg running rfl (sendAsync_server s c _)
  | broadcast c r =>
      have running : s.pos c = some .running := (placed c).device _ (by
        rw [show s.devices c = _ from guard]; rfl)
      exact accounted_served reg running rfl rfl
  | hostBroadcast r => exact acc
  | sweepStart c =>
      refine accounted_sweep acc (.sweep 0) ?_
      intro i _ _
      simp [DevicePc.before]
  | sweepState c i =>
      apply accounted_sweep acc _
      intro j unended before
      rw [guard.1] at before
      have ahead : i.val ≤ j.val := of_decide_eq_true before
      split
      · exact decide_eq_true ahead
      · rename_i free
        refine decide_eq_true (Nat.lt_of_le_of_ne ahead ?_)
        intro same
        rw [Fin.ext same, not_not] at free
        rcases unended with connecting | connected
        · rw [connecting] at free; cases free
        · rw [connected] at free; cases free
  | readAddress c i =>
      apply accounted_sweep acc _
      intro j _ before
      rw [show s.devices c = _ from guard] at before
      have ahead : i ≤ j := of_decide_eq_true before
      apply decide_eq_true
      rcases Nat.lt_or_eq_of_le ahead with later | same
      · exact .inl later
      · have isJ : i = j := Fin.ext same
        exact .inr ⟨isJ, by rw [isJ]⟩
  | visit c i address => exact accounted_visit inv acc guard attends

end

theorem accounted_reachable {s : State} (path : system.ReachableWhen Attends s) : Accounted s := by
  refine path.invariant_with (K := fun s => RegInv s.server ∧ Connection.Inv s.backend ∧ Placed s)
    ?_ ?_ fun _ a known acc guard attends =>
      accounted_step known.1 known.2.1 known.2.2 acc a guard attends
  · intro s reached
    exact ⟨server_reachable reached, Connection.inv_reachable (backend_reachable reached),
      placed_reachable reached⟩
  · intro _ i unended
    rcases unended with free | free <;> cases free

/-! ## No link is left -/

/-- No connection is counted, about to look for the last client or in its teardown. -/
def NoClients (s : State) : Prop :=
  ∀ c pos fd, s.server.conns c = some (pos, fd) →
    pos.counted = false ∧ pos ≠ .checkingLast ∧ pos ≠ .teardown

/-- **No orphan links, as long as every step attends to the slots.** With no client
left, the teardown over and no NimBLE event owed, every slot is Free. -/
theorem no_orphan_links (s : State) (path : system.ReachableWhen Attends s) (gone : NoClients s)
    (quiet : ∀ c, ¬ (s.backend.links c).Pending) (i : SlotIdx) :
    (s.backend.slots i).state = .free := by
  have reached := path.reachable
  have absent : ∀ {c pos}, s.pos c = some pos →
      pos.counted = false ∧ pos ≠ .checkingLast ∧ pos ≠ .teardown := by
    intro c pos here
    obtain ⟨⟨pos', fd⟩, held, rfl⟩ := Option.map_eq_some_iff.mp here
    exact gone c pos' fd held
  have nobody : connsAt s.server ConnAt.counted = 0 := by
    apply tally_eq_zero.mpr
    intro c _ counted
    obtain ⟨⟨pos, fd⟩, held, isCounted⟩ := (Option.any_eq_true ..).mp counted
    rw [(gone c pos fd held).1] at isCounted
    cases isCounted
  have idle : ∀ t, s.backend.tasks t = .idle := by
    intro t
    rcases (placed_reachable reached t).task with idle | running | ⟨teardown, -⟩
    · exact idle
    · cases (absent running).1
    · exact absurd rfl (absent teardown).2.2
  have ended : ¬ Unended (s.backend.slots i) := by
    intro unended
    obtain ⟨c, -, visits⟩ := accounted_reachable path nobody i unended
    rcases pos_of_visits visits with checking | teardown
    · exact (absent checking).2.1 rfl
    · exact (absent teardown).2.2 rfl
  have unmarked := Connection.not_disconnecting (backend_reachable reached) idle quiet i
  cases state : (s.backend.slots i).state with
  | free => rfl
  | connecting => exact absurd (.inl state) ended
  | connected => exact absurd (.inr state) ended
  | disconnecting => exact absurd state unmarked

/-- The link is up when the only client leaves; the teardown ends it. -/
def attendedSchedule : List Action :=
  served 0 5 ++ connects 0 firstCall true ++ comesUp firstCall ++ leaves 0 5 ++
  ([.readAddress 0 (slotNo 0), .visit 0 (slotNo 0) 7,
   .backend (.disconnectCall 0 0)] : List Action) ++
  sweptRest 0 5 ++
  ([.backend (.onDisconnect 0 0 531)] : List Action)

theorem no_orphan_links_attended :
    ∃ s, system.ReachableWhen Attends s ∧ NoClients s ∧ s.log.length = 1 ∧
      ∀ i, (s.backend.slots i).state = .free := by
  have path := system.reachable_finalFrom Attends system.init attendedSchedule
  have gone : NoClients (system.finalFrom Attends system.init attendedSchedule) := by
    intro c pos fd held
    match c with
    | 0 => cases held
    | c + 1 => cases held
  refine ⟨_, path, gone, by decide, no_orphan_links _ path gone ?_⟩
  intro p
  match p with
  | 0 => exact id
  | p + 1 => exact id

/-- The attempt is still Connecting when the teardown visits it, and comes up later. -/
def lateLinkSchedule : List Action :=
  served 0 5 ++ connects 0 firstCall true ++ leaves 0 5 ++
  ([.readAddress 0 (slotNo 0), .visit 0 (slotNo 0) 7] : List Action) ++ sweptRest 0 5 ++
  ([.backend (.established 0 0), .backend (.onConnect 0 0 false 247),
   .backend (.hostCallback (some 0) 7 ⟨true, 247, 0⟩), .backend .hostNotify,
   .backend .hostResume] : List Action)

/-- A second client is counted before the first one looks for the last, and its task
cannot be created. -/
def skippedTeardownSchedule : List Action :=
  served 0 5 ++ connects 0 firstCall true ++ comesUp firstCall ++
  ([.server (.endLoop 0 5), .server (.released 0 5), .server (.unregister 0 5),
   .server (.discount 0 5), .server (.accept 6), .server (.registerClient 1 6),
   .server (.countClient 1 6), .server (.checkLast 0 5), .server (.close 0 5),
   .server (.createTask 1 6 false), .server (.createUnregister 1 6), .server (.createDiscount 1 6),
   .server (.createClose 1 6)] : List Action)

/-- Every connection is closed and nothing is owed, yet a slot is Connected: after a
teardown that met it Connecting, so that nobody heard of the link, and after a
teardown that was skipped. -/
theorem orphan_link :
    (∃ s, system.Reachable s ∧ (∀ c, s.server.conns c = none) ∧ s.backend.host = .idle ∧
      (∀ p, ¬ (s.backend.links p).Pending) ∧ (s.backend.slots 0).state = .connected ∧
      s.log = [⟨onConnectionState .event 7 ⟨true, 247, 0⟩, false⟩]) ∧
    ∃ s, system.Reachable s ∧ (∀ c, s.server.conns c = none) ∧ s.backend.host = .idle ∧
      (∀ p, ¬ (s.backend.links p).Pending) ∧ (s.backend.slots 0).state = .connected ∧
      s.log = [⟨onConnectionState .event 7 ⟨true, 247, 0⟩, true⟩] := by
  refine ⟨⟨_, system.reachable_final lateLinkSchedule, ?_, rfl, ?_, by decide, by decide⟩,
    ⟨_, system.reachable_final skippedTeardownSchedule, ?_, rfl, ?_, by decide, by decide⟩⟩
  · intro c
    match c with
    | 0 => rfl
    | c + 1 => rfl
  · intro p
    match p with
    | 0 => decide
    | p + 1 => exact id
  · intro c
    match c with
    | 0 => rfl
    | 1 => rfl
    | c + 2 => rfl
  · intro p
    match p with
    | 0 => decide
    | p + 1 => exact id

end NimbleProxy.Api.Devices
