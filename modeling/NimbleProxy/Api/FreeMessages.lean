/-
# Api.FreeMessages -- how BluetoothConnectionsFreeResponse is built and sent

Puts the slots of `Backend.Connection` beside the clients of `Api.Subscriptions`.
A message is built in three places: `handle_subscribe_free` of a connection task,
and `on_free_change`, which `notify_free_change` calls from `connect` on a
connection task and from the NimBLE callbacks on the host task. The free-change
callback is registered.

`build_free_msg` takes the slot mutex twice: `free_slots` and `in_use_addresses`
are two steps, and any other task may claim or release a slot in between. How
many slots were is kept with the message (`Build`) and read by no step. After the
build come the look of `send_async` at `g_active_count` and the broadcast under
`g_tx_mutex`; `sent` has the messages in the order of the broadcasts.

`free_message_consistent_iff` says when a message fits one slot table.
-/
import NimbleProxy.Api.SubscriptionCounters
import NimbleProxy.Backend.Connection

namespace NimbleProxy.Backend.SlotTable

set_option autoImplicit false

/-! ## Claims and releases between two tables -/

/-- The slots that are free in `before` and in use in `after`. -/
def claims (before after : SlotTable) : Nat :=
  (List.finRange maxConnections).countP fun i =>
    decide ((before i).state = .free ∧ (after i).state ≠ .free)

/-- The slots that are in use in `before` and free in `after`. -/
def releases (before after : SlotTable) : Nat :=
  claims after before

/-- The free slots change by the releases and the claims. -/
theorem freeSlots_balance (before after : SlotTable) :
    after.freeSlots + claims before after = before.freeSlots + releases before after := by
  have balance : ∀ l : List SlotIdx,
      (l.countP fun i => decide ((after i).state = .free)) +
        (l.countP fun i => decide ((before i).state = .free ∧ (after i).state ≠ .free)) =
      (l.countP fun i => decide ((before i).state = .free)) +
        l.countP fun i => decide ((after i).state = .free ∧ (before i).state ≠ .free) := by
    intro l
    induction l with
    | nil => rfl
    | cons i rest ih =>
        simp only [List.countP_cons, decide_eq_true_eq]
        by_cases freeBefore : (before i).state = .free <;>
          by_cases freeAfter : (after i).state = .free <;>
          simp only [freeBefore, freeAfter, ne_eq, not_true, not_false_iff, and_true, and_false,
            if_true, if_false] at ih ⊢ <;> omega
  rw [freeSlots_eq_countP, freeSlots_eq_countP]
  exact balance (List.finRange maxConnections)

end NimbleProxy.Backend.SlotTable

namespace NimbleProxy.Api.FreeMessages

open NimbleProxy.Theory NimbleProxy.Backend NimbleProxy.Api.Server

set_option autoImplicit false

/-! ## State -/

/-- `BluetoothConnectionsFreeResponse`. -/
structure FreeMessage where
  limit : Nat
  free : Nat
  allocated : List UInt64
  deriving DecidableEq

/-- A message and, as bookkeeping, what happened to the slots between its two reads. -/
structure Build where
  message : FreeMessage
  claims : Nat
  releases : Nat
  deriving DecidableEq

/-- A task that builds messages. -/
inductive Builder
  | task (c : ConnId)
  | host
  deriving DecidableEq

/-- Where a builder is inside `on_free_change` or `handle_subscribe_free`. -/
inductive BuildPc
  | idle
  /-- `handle_subscribe_free`, before `build_free_msg` -/
  | subscribing
  /-- about to call `free_slots` -/
  | building
  /-- about to call `in_use_addresses` -/
  | counted (free claims releases : Nat)
  /-- about to look at `g_active_count` in `send_async` -/
  | built (m : FreeMessage)
  /-- in `send_async`, about to broadcast -/
  | sending (m : FreeMessage)
  /-- `on_free_change` has returned -/
  | notified
  deriving DecidableEq

structure State where
  subs : Subscriptions.State := {}
  backend : Connection.State := {}
  builders : Builder → BuildPc := fun _ => .idle
  /-- every message built so far -/
  builds : List Build := []
  /-- the messages broadcast so far -/
  sent : List FreeMessage := []

def State.setBuilder (s : State) (w : Builder) (pc : BuildPc) : State :=
  { s with builders := Function.update s.builders w pc }

/-- The task is at a call of `notify_free_change`. -/
def atNotify (s : Connection.State) : Builder → Bool
  | .task c =>
      match s.tasks c with
      | .claimed .notify _ | .released .notify _ _ => true
      | _ => false
  | .host => decide (s.host = .notify)

/-! ## Building and sending -/

/-- `on_free_change`, up to the build. -/
def onFreeChange (s : State) (w : Builder) : State :=
  s.setBuilder w (if s.subs.subFreeCount ≤ 0 then .notified else .building)

/-- The `free_slots` of `build_free_msg`. -/
def buildFree (s : State) (w : Builder) : State :=
  s.setBuilder w (.counted s.backend.slots.freeSlots 0 0)

/-- The message as the second read of `build_free_msg` completes it. -/
def completed (s : State) (free : Nat) : FreeMessage :=
  ⟨maxConnections, free, s.backend.slots.inUseAddresses maxConnections⟩

/-- The `in_use_addresses` of `build_free_msg`. -/
def buildAllocated (s : State) (w : Builder) (free claims releases : Nat) : State :=
  { s.setBuilder w (.built (completed s free)) with
    builds := s.builds ++ [⟨completed s free, claims, releases⟩] }

/-- Where a builder goes when `send_async` returns: on in `connection.cpp`, or out of
`handle_subscribe_free`. -/
def afterSend (s : State) (w : Builder) : BuildPc :=
  if atNotify s.backend w then .notified else .idle

/-- `send_async` up to the broadcast; without a counted client the message is dropped. -/
def sendAsync (s : State) (w : Builder) (m : FreeMessage) : State :=
  s.setBuilder w (if s.subs.server.activeCount = 0 then afterSend s w else .sending m)

def broadcast (s : State) (w : Builder) (m : FreeMessage) : State :=
  { s.setBuilder w (afterSend s w) with sent := s.sent ++ [m] }

/-! ## Steps of the two systems below -/

/-- A builder between its two reads when the slots change from `before` to `after`. -/
def BuildPc.see (before after : SlotTable) : BuildPc → BuildPc
  | .counted free claims releases =>
      .counted free (claims + before.claims after) (releases + before.releases after)
  | pc => pc

/-- The builder whose `notify_free_change` returns with this step. -/
def notifier : Connection.Action → Option Builder
  | .connectNotify t _ | .releaseNotify t _ _ => some (.task t)
  | .hostNotify => some .host
  | _ => none

/-- A step of `connection.cpp` or NimBLE. -/
def backendStep (s : State) (a : Connection.Action) : State :=
  let backend := Connection.effect s.backend a
  { s with
    backend
    builders := fun w => if notifier a = some w then .idle
      else (s.builders w).see s.backend.slots backend.slots }

/-- The task of connection `c` is in none of the modelled calls. -/
def Free (s : State) (c : ConnId) : Prop :=
  s.builders (.task c) = .idle ∧ s.backend.tasks c = .idle

instance (s : State) (c : ConnId) : Decidable (Free s c) :=
  inferInstanceAs (Decidable (_ ∧ _))

/-- A connection goes on only when its handler has returned; `handle_subscribe_free` is a
step of this system. -/
def Returned (s : State) : Subscriptions.Action → Prop
  | .subscribeFree _ => False
  | .subscribeAdv c | .unsubscribeAdv c => Free s c
  | .server (.endLoop c _) | .server (.teardownDone c _) => Free s c
  | _ => True

instance (s : State) : (a : Subscriptions.Action) → Decidable (Returned s a)
  | .subscribeFree _ => inferInstanceAs (Decidable False)
  | .subscribeAdv c | .unsubscribeAdv c => inferInstanceAs (Decidable (Free s c))
  | .server a =>
      match a with
      | .endLoop c _ | .teardownDone c _ => inferInstanceAs (Decidable (Free s c))
      | .accept .. | .registerClient .. | .countClient .. | .refuse .. | .createTask ..
      | .createUnregister .. | .createDiscount .. | .createClose .. | .unregister .. | .discount ..
      | .checkLast .. | .close .. | .sendStart .. | .sendEncode .. | .sendSnapshot .. | .sendOne ..
      | .sendDone .. | .reap .. | .released .. => inferInstanceAs (Decidable True)
  | .addAdv _ | .startForwarding _ | .subAdv .. | .stopForwarding .. | .addFree _ | .leaveAdv _
  | .leaveFree _ | .subFree _ | .teardownStop _ => inferInstanceAs (Decidable True)

/-- `connect` and `disconnect` are entered by a connection task between two requests, or by
`disconnect_all`; `notify_free_change` returns when `on_free_change` has. -/
def Proceeds (s : State) : Connection.Action → Prop
  | .connectLocked t _ _ => s.builders (.task t) = .idle ∧ s.subs.pos t = some .running ∧
      (s.subs.clients t).handler = .idle
  | .disconnectLocked t _ => s.builders (.task t) = .idle ∧
      (s.subs.pos t = some .running ∧ (s.subs.clients t).handler = .idle ∨
        s.subs.pos t = some .teardown)
  | a => ∀ w ∈ notifier a, s.builders w = .notified

instance (s : State) : (a : Connection.Action) → Decidable (Proceeds s a)
  | .connectLocked .. => inferInstanceAs (Decidable (_ = _ ∧ _ = _ ∧ _ = _))
  | .disconnectLocked .. => inferInstanceAs (Decidable (_ = _ ∧ (_ = _ ∧ _ = _ ∨ _ = _)))
  | .connectNotify t f =>
      inferInstanceAs (Decidable (∀ w ∈ notifier (.connectNotify t f), s.builders w = .notified))
  | .releaseNotify t f cb =>
      inferInstanceAs (Decidable (∀ w ∈ notifier (.releaseNotify t f cb), s.builders w = .notified))
  | .hostNotify => inferInstanceAs (Decidable (∀ w ∈ notifier .hostNotify, s.builders w = .notified))
  | .connectStopScan .. | .connectIssue .. | .connectUnissued .. | .connectCallback ..
  | .disconnectCall .. | .established .. | .attemptFailed .. | .linkLost .. | .onConnect ..
  | .onConnectFail .. | .onDisconnect .. | .hostCallback .. | .hostResume =>
      inferInstanceAs (Decidable (∀ w ∈ (none : Option Builder), s.builders w = .notified))

/-! ## The system -/

inductive Action
  | subs (a : Subscriptions.Action)
  | backend (a : Connection.Action)
  /-- `handle_subscribe_free`, up to the flag -/
  | subscribeFree (c : ConnId)
  /-- `handle_subscribe_free` enters `build_free_msg` -/
  | subscribed (c : ConnId)
  | onFreeChange (w : Builder)
  | buildFree (w : Builder)
  | buildAllocated (w : Builder) (free claims releases : Nat)
  | sendAsync (w : Builder) (m : FreeMessage)
  | broadcast (w : Builder) (m : FreeMessage)

def Guard (s : State) : Action → Prop
  | .subs a => Subscriptions.Guard s.subs a ∧ Returned s a
  | .backend a => Connection.Guard s.backend a ∧ Proceeds s a
  | .subscribeFree c => Subscriptions.Guard s.subs (.subscribeFree c) ∧ Free s c
  | .subscribed c => s.builders (.task c) = .subscribing ∧ (s.subs.clients c).handler = .idle
  | .onFreeChange w => s.builders w = .idle ∧ atNotify s.backend w = true
  | .buildFree w => s.builders w = .building
  | .buildAllocated w free claims releases => s.builders w = .counted free claims releases
  | .sendAsync w m => s.builders w = .built m
  | .broadcast w m => s.builders w = .sending m

instance (s : State) : (a : Action) → Decidable (Guard s a)
  | .subs a => inferInstanceAs (Decidable (Subscriptions.Guard s.subs a ∧ Returned s a))
  | .backend a => inferInstanceAs (Decidable (Connection.Guard s.backend a ∧ Proceeds s a))
  | .subscribeFree c =>
      inferInstanceAs (Decidable (Subscriptions.Guard s.subs (.subscribeFree c) ∧ Free s c))
  | .subscribed _ | .onFreeChange _ => inferInstanceAs (Decidable (_ = _ ∧ _ = _))
  | .buildFree _ | .buildAllocated .. | .sendAsync .. | .broadcast .. =>
      inferInstanceAs (Decidable (_ = _))

def effect (s : State) : Action → State
  | .subs a => { s with subs := Subscriptions.effect s.subs a }
  | .backend a => backendStep s a
  | .subscribeFree c =>
      { s.setBuilder (.task c) .subscribing with
        subs := Subscriptions.effect s.subs (.subscribeFree c) }
  | .subscribed c => s.setBuilder (.task c) .building
  | .onFreeChange w => onFreeChange s w
  | .buildFree w => buildFree s w
  | .buildAllocated w free claims releases => buildAllocated s w free claims releases
  | .sendAsync w m => sendAsync s w m
  | .broadcast w m => broadcast s w m

def system : ActionSystem State Action where
  init := {}
  Guard := Guard
  guardDecidable := inferInstance
  effect := effect

/-- Seen from the subscriptions, building and the slots are no steps. -/
theorem subs_projection : ActionSystem.Projection system Subscriptions.system State.subs where
  init := rfl
  step := by
    intro s a guard
    cases a with
    | subs a => exact .inr ⟨a, guard.1, rfl⟩
    | subscribeFree c => exact .inr ⟨.subscribeFree c, guard.1, rfl⟩
    | backend a | subscribed c | onFreeChange w | buildFree w
    | buildAllocated w free claims releases | sendAsync w m | broadcast w m => exact .inl rfl

theorem subs_reachable {s : State} (path : system.Reachable s) : Subscriptions.SubsInv s.subs :=
  Subscriptions.subs_reachable (subs_projection.reachable path)

/-! ## When a message is consistent -/

/-- Free and allocated slots add up, and both are those of one slot table. -/
def Consistent (m : FreeMessage) : Prop :=
  m.free + m.allocated.length = m.limit ∧
    ∃ t, system.Reachable t ∧ m.free = t.backend.slots.freeSlots ∧
      m.allocated = t.backend.slots.inUseAddresses maxConnections

/-- The count of a builder between its two reads, against the slots as they are now. -/
def CountedInv (s : State) : Prop :=
  ∀ w free claims releases, s.builders w = .counted free claims releases →
    s.backend.slots.freeSlots + claims = free + releases

/-- A message read `allocated` off some table, and `free` off one with so many claims and
releases in between. -/
def Explained (b : Build) : Prop :=
  b.message.limit = maxConnections ∧
    ∃ t, system.Reachable t ∧
      b.message.allocated = t.backend.slots.inUseAddresses maxConnections ∧
      t.backend.slots.freeSlots + b.claims = b.message.free + b.releases

section

variable {s : State}

theorem see_eq_counted {before after : SlotTable} {pc : BuildPc} {free claims releases : Nat}
    (seen : pc.see before after = .counted free claims releases) :
    ∃ claims' releases', pc = .counted free claims' releases' ∧
      claims = claims' + before.claims after ∧ releases = releases' + before.releases after := by
  cases pc with
  | counted free' claims' releases' =>
      simp only [BuildPc.see, BuildPc.counted.injEq] at seen
      obtain ⟨rfl, rfl, rfl⟩ := seen
      exact ⟨claims', releases', rfl, rfl, rfl⟩
  | idle | subscribing | building | built m | sending m | notified => cases seen

/-- A builder moves to a position that is not between the two reads, or reads now. -/
theorem counted_setBuilder (inv : CountedInv s) (w : Builder) (pc : BuildPc)
    (fits : ∀ free claims releases, pc = .counted free claims releases →
      s.backend.slots.freeSlots + claims = free + releases) : CountedInv (s.setBuilder w pc) := by
  intro v free claims releases here
  simp only [State.setBuilder, Function.update_apply] at here
  split at here
  · exact fits free claims releases here
  · exact inv v free claims releases here

theorem counted_backend (inv : CountedInv s) (a : Connection.Action) :
    CountedInv (backendStep s a) := by
  intro w free claims releases here
  simp only [backendStep] at here ⊢
  split at here
  · cases here
  · obtain ⟨claims', releases', before, rfl, rfl⟩ := see_eq_counted here
    have was := inv w free claims' releases' before
    have balance := SlotTable.freeSlots_balance s.backend.slots
      (Connection.effect s.backend a).slots
    omega

theorem counted_step (inv : CountedInv s) (a : Action) (guard : Guard s a) :
    CountedInv (effect s a) := by
  cases a with
  | subs a => exact inv
  | backend a => exact counted_backend inv a
  | subscribeFree c => exact counted_setBuilder inv (.task c) .subscribing (by simp)
  | subscribed c => exact counted_setBuilder inv (.task c) .building (by simp)
  | onFreeChange w =>
      apply counted_setBuilder inv w _
      intro free claims releases here
      split at here <;> cases here
  | buildFree w =>
      apply counted_setBuilder inv w _
      rintro _ _ _ ⟨⟩
      rfl
  | buildAllocated w free claims releases =>
      exact counted_setBuilder inv w (.built (completed s free)) (by simp)
  | sendAsync w m =>
      apply counted_setBuilder inv w _
      intro free claims releases here
      unfold afterSend at here
      split at here
      · split at here <;> cases here
      · cases here
  | broadcast w m =>
      refine counted_setBuilder inv w (afterSend s w) ?_
      intro free claims releases here
      unfold afterSend at here
      split at here <;> cases here

/-- Only the second read of a build adds to the messages built. -/
theorem builds_step (a : Action) : (effect s a).builds = s.builds ∨
    ∃ w free claims releases, a = .buildAllocated w free claims releases ∧
      (effect s a).builds = s.builds ++ [⟨completed s free, claims, releases⟩] := by
  cases a with
  | buildAllocated w free claims releases => exact .inr ⟨w, free, claims, releases, rfl, rfl⟩
  | subs a | backend a | subscribeFree c | subscribed c | onFreeChange w | buildFree w
  | sendAsync w m | broadcast w m => exact .inl rfl

end

theorem explained_reachable {s : State} (path : system.Reachable s) :
    CountedInv s ∧ ∀ b ∈ s.builds, Explained b := by
  refine path.invariant_with (K := fun s => system.Reachable s)
    (P := fun s => CountedInv s ∧ ∀ b ∈ s.builds, Explained b) (fun _ reached => reached) ?_ ?_
  · refine ⟨?_, by simp [system]⟩
    intro w free claims releases never
    cases never
  · rintro s a reached ⟨counted, builds⟩ guard
    refine ⟨counted_step counted a guard, ?_⟩
    intro b inside
    rcases builds_step (s := s) a with same | ⟨w, free, claims, releases, rfl, more⟩
    · rw [show (system.effect s a).builds = s.builds from same] at inside
      exact builds b inside
    · rw [show (system.effect s _).builds = _ from more] at inside
      rcases List.mem_append.mp inside with before | new
      · exact builds b before
      · obtain rfl := List.mem_singleton.mp new
        exact ⟨rfl, s, reached, rfl, counted w free claims releases guard⟩

/-- **A message is consistent if and only if as many slots were claimed as were released
between its two reads.** -/
theorem free_message_consistent_iff (s : State) (path : system.Reachable s) (b : Build)
    (inside : b ∈ s.builds) : Consistent b.message ↔ b.claims = b.releases := by
  obtain ⟨limit, t, reached, allocated, count⟩ := (explained_reachable path).2 b inside
  have sum := SlotTable.freeSlots_add_inUse t.backend.slots
  rw [← allocated] at sum
  constructor
  · rintro ⟨addsUp, -⟩
    rw [limit] at addsUp
    omega
  · intro balanced
    have free : b.message.free = t.backend.slots.freeSlots := by omega
    exact ⟨by rw [limit, free]; exact sum, t, reached, free, allocated⟩

/-- Two clients are served; one subscribes and reads the number of free slots. -/
def firstReadSchedule : List Action :=
  (Subscriptions.twoClientsSchedule.map Action.subs) ++
  ([.subscribeFree 0, .subs (.addFree 0), .subscribed 0, .buildFree (.task 0)] : List Action)

/-- The other client claims a slot behind that message, and builds the next one. -/
theorem free_message_consistent_undisturbed :
    ∃ s b, system.Reachable s ∧ b ∈ s.builds ∧ b.message = ⟨4, 3, [7]⟩ ∧
      (Consistent b.message ↔ b.claims = b.releases) := by
  have path := system.reachable_final (firstReadSchedule ++
    [.buildAllocated (.task 0) 4 0 0, .backend (.connectLocked 1 7 0), .onFreeChange (.task 1),
     .buildFree (.task 1), .buildAllocated (.task 1) 3 0 0])
  exact ⟨_, ⟨⟨4, 3, [7]⟩, 0, 0⟩, path, by decide +kernel, rfl,
    free_message_consistent_iff _ path _ (by decide +kernel)⟩

/-- The other client's `connect` claims a slot before the addresses are read. -/
theorem torn_free_message :
    ∃ s b, system.Reachable s ∧ b ∈ s.builds ∧ ¬ Consistent b.message := by
  refine ⟨_, ⟨⟨4, 4, [7]⟩, 1, 0⟩, system.reachable_final (firstReadSchedule ++
    [.backend (.connectLocked 1 7 0), .buildAllocated (.task 0) 4 1 0]), by decide +kernel, ?_⟩
  rintro ⟨addsUp, -⟩
  cases addsUp

end NimbleProxy.Api.FreeMessages
