/-
# Api.Forwarding -- advertisement forwarding follows the subscriptions, or not

`start_forwarding` is called by the task that took `g_sub_adv_count` from zero to
one, `stop_forwarding` by the one that took it from one to zero or that found no
client left. The call comes after the decision, and nothing ties the two
together: a stop that was decided before another client subscribed and is carried
out after that client's start turns forwarding off under a subscriber.

A start never comes too late, since its own client is still counted. So
forwarding follows the subscriptions in every run in which no stop is carried out
while somebody is counted and no start is on its way (`StopJustified`).
-/
import NimbleProxy.Api.SubscriptionCounters

namespace NimbleProxy.Api.Subscriptions

open NimbleProxy.Theory NimbleProxy.Api.Server ActionSystem

set_option autoImplicit false

/-- A task is about to call `start_forwarding`. -/
def Starting (s : State) : Prop :=
  ∃ c, c < s.server.nextConn ∧ (s.clients c).handler = .start

/-- A task is about to call `stop_forwarding` after its decrement. -/
def Stopping (s : State) : Prop :=
  ∃ c leaving, (s.clients c).handler = .stop leaving

instance (s : State) : Decidable (Starting s) :=
  inferInstanceAs (Decidable (∃ c, c < s.server.nextConn ∧ (s.clients c).handler = .start))

/-- If this step stops forwarding, no subscriber is counted or a start is on its way. -/
def StopJustified (s : State) : Action → Prop
  | .stopForwarding _ _ => s.subAdvCount = 0 ∨ Starting s
  | .teardownStop _ => s.subAdvCount = 0 ∨ Starting s
  | _ => True

instance (s : State) : (a : Action) → Decidable (StopJustified s a)
  | .stopForwarding .. | .teardownStop _ =>
      inferInstanceAs (Decidable (s.subAdvCount = 0 ∨ Starting s))
  | .server _ | .subscribeAdv _ | .addAdv _ | .startForwarding _ | .unsubscribeAdv _ | .subAdv ..
  | .subscribeFree _ | .addFree _ | .leaveAdv _ | .leaveFree _ | .subFree _ =>
      inferInstanceAs (Decidable True)

/-- A counter above zero has forwarding on or about to be; forwarding on has a
counter above zero or is about to be off. -/
structure ForwardingInv (s : State) : Prop where
  on : 0 < s.subAdvCount → s.forwarding = true ∨ Starting s
  off : s.forwarding = true → 0 < s.subAdvCount ∨ Stopping s

section

variable {s s' : State} {c : ConnId}

/-- What another client is about to do stays. -/
theorem Starting.other (starting : Starting s) {client : Client}
    (clients : s'.clients = Function.update s.clients c client)
    (nextConn : s'.server.nextConn = s.server.nextConn) (notHere : (s.clients c).handler ≠ .start) :
    Starting s' := by
  obtain ⟨d, born, pc⟩ := starting
  have other : d ≠ c := by
    rintro rfl
    exact notHere pc
  exact ⟨d, by rw [nextConn]; exact born, by rw [clients, Function.update_of_ne other]; exact pc⟩

theorem Stopping.other (stopping : Stopping s) {client : Client}
    (clients : s'.clients = Function.update s.clients c client)
    (notHere : ∀ leaving, (s.clients c).handler ≠ .stop leaving) : Stopping s' := by
  obtain ⟨d, leaving, pc⟩ := stopping
  have other : d ≠ c := by
    rintro rfl
    exact notHere leaving pc
  exact ⟨d, leaving, by rw [clients, Function.update_of_ne other]; exact pc⟩

/-- A client's step that touches neither the counter nor forwarding and carries out
neither a start nor a stop. -/
theorem ForwardingInv.client (fwd : ForwardingInv s) (handler : HandlerPc)
    (here : (s.clients c).handler = handler) (client : Client)
    (notStart : handler ≠ .start) (notStop : ∀ leaving, handler ≠ .stop leaving)
    (clients : s'.clients = Function.update s.clients c client) (server : s'.server = s.server)
    (count : s'.subAdvCount = s.subAdvCount) (forwarding : s'.forwarding = s.forwarding) :
    ForwardingInv s' := by
  have notStartHere : (s.clients c).handler ≠ .start := by rw [here]; exact notStart
  have notStopHere : ∀ leaving, (s.clients c).handler ≠ .stop leaving := by rw [here]; exact notStop
  refine ⟨?_, ?_⟩
  · rw [count, forwarding]
    intro positive
    exact (fwd.on positive).imp_right fun starting =>
      starting.other clients (by rw [server]) notStartHere
  · rw [count, forwarding]
    intro isOn
    exact (fwd.off isOn).imp_right fun stopping => stopping.other clients notStopHere

/-- A client whose increment is in keeps the counter above zero. -/
theorem SubsInv.counted (inv : SubsInv s) (born : c < s.server.nextConn)
    (counted : (s.clients c).advIn = true) : 0 < s.subAdvCount := by
  rw [inv.adv]
  have positive : 0 < clientsWith s Client.advIn :=
    tally_pos.mpr ⟨c, Finset.mem_range.mpr born, counted⟩
  exact Int.natCast_pos.mpr positive

theorem fwd_addAdv (fwd : ForwardingInv s) (inv : SubsInv s)
    (pc : (s.clients c).handler = .addAdv) : ForwardingInv (addAdv s c) := by
  have born := inv.born_of_handler pc (by decide)
  have nonneg : 0 ≤ s.subAdvCount := by
    rw [inv.adv]
    exact Int.natCast_nonneg _
  refine ⟨?_, ?_⟩
  · intro _
    by_cases zero : s.subAdvCount = 0
    · refine .inr ⟨c, born, ?_⟩
      simp [addAdv, State.setClient, zero]
    · have positive : 0 < s.subAdvCount := by omega
      exact (fwd.on positive).imp_right fun starting =>
        starting.other (c := c) rfl rfl (by rw [pc]; decide)
  · intro _
    left
    simp only [addAdv]
    omega

theorem fwd_startForwarding (inv : SubsInv s) (pc : (s.clients c).handler = .start) :
    ForwardingInv (startForwarding s c) := by
  -- the task that starts is itself counted
  have flag : (s.clients c).subs.subAdv = true := by
    simpa [Client.flagsOk, pc] using (inv.fits c).flags
  have positive := inv.counted (inv.born_of_handler pc (by decide)) (c := c)
    (by simp [Client.advIn, pc, flag])
  exact ⟨fun _ => .inl rfl, fun _ => .inl positive⟩

theorem fwd_subAdv (fwd : ForwardingInv s) (inv : SubsInv s) {leaving : Bool}
    (pc : (s.clients c).handler = .subAdv leaving) : ForwardingInv (subAdv s c leaving) := by
  have positive := inv.counted (inv.born_of_handler pc (by simp)) (c := c)
    (by simp [Client.advIn, pc])
  refine ⟨?_, ?_⟩
  · intro _
    exact (fwd.on positive).imp_right fun starting =>
      starting.other (c := c) rfl rfl (by rw [pc]; simp)
  · intro _
    by_cases last : s.subAdvCount = 1
    · refine .inr ⟨c, leaving, ?_⟩
      simp [subAdv, State.setClient, last]
    · left
      simp only [subAdv]
      omega

/-- Forwarding goes off with nobody counted or with a start on its way. -/
theorem fwd_stop (justified : s.subAdvCount = 0 ∨ Starting s) (client : Client)
    (here : (s.clients c).handler ≠ .start)
    (clients : s'.clients = Function.update s.clients c client) (server : s'.server = s.server)
    (count : s'.subAdvCount = s.subAdvCount) (forwarding : s'.forwarding = false) :
    ForwardingInv s' := by
  refine ⟨?_, ?_⟩
  · intro positive
    rw [count] at positive
    rcases justified with zero | starting
    · omega
    · exact .inr (starting.other clients (by rw [server]) here)
  · intro isOn
    rw [forwarding] at isOn
    cases isOn

theorem fwd_step (fwd : ForwardingInv s) (inv : SubsInv s) (a : Action) (guard : Guard s a)
    (justified : StopJustified s a) : ForwardingInv (effect s a) := by
  cases a with
  | server a =>
      have grows := nextConn_step guard.1
      refine ⟨?_, fwd.off⟩
      intro positive
      refine (fwd.on positive).imp_right ?_
      rintro ⟨c, born, pc⟩
      exact ⟨c, Nat.lt_of_lt_of_le born grows, pc⟩
  | subscribeAdv c =>
      simp only [effect, subscribeAdv]
      split
      · exact fwd
      · exact fwd.client .idle guard.2 _ (by decide) (by simp) rfl rfl rfl rfl
  | unsubscribeAdv c =>
      simp only [effect, unsubscribeAdv]
      split
      · exact fwd.client .idle guard.2 _ (by decide) (by simp) rfl rfl rfl rfl
      · exact fwd
  | subscribeFree c =>
      simp only [effect, subscribeFree]
      split
      · exact fwd
      · exact fwd.client .idle guard.2 _ (by decide) (by simp) rfl rfl rfl rfl
  | leaveAdv c =>
      simp only [effect, leaveAdv]
      split <;> exact fwd.client .idle guard.2 _ (by decide) (by simp) rfl rfl rfl rfl
  | leaveFree c =>
      simp only [effect, leaveFree]
      split <;> exact fwd.client .leaveFree guard _ (by decide) (by simp) rfl rfl rfl rfl
  | addFree c => exact fwd.client .addFree guard _ (by decide) (by simp) rfl rfl rfl rfl
  | subFree c => exact fwd.client .subFree guard _ (by decide) (by simp) rfl rfl rfl rfl
  | addAdv c => exact fwd_addAdv fwd inv guard
  | startForwarding c => exact fwd_startForwarding inv guard
  | subAdv c leaving => exact fwd_subAdv fwd inv guard
  | stopForwarding c leaving =>
      have pc : (s.clients c).handler = .stop leaving := guard
      exact fwd_stop justified _ (by rw [pc]; simp) rfl rfl rfl rfl
  | teardownStop c =>
      exact fwd_stop justified _ (by rw [guard.2]; decide) rfl rfl rfl rfl

end

theorem fwd_reachable {s : State} (path : system.ReachableWhen StopJustified s) : ForwardingInv s :=
  path.invariant_with (fun _ => subs_reachable) ⟨fun positive => absurd positive (by decide),
    fun isOn => by cases isOn⟩ fun _ a inv fwd guard justified => fwd_step fwd inv a guard justified

/-- `on_last_client_disconnect` was entered and has not stopped forwarding yet. -/
def TeardownMidway (s : State) : Prop :=
  ∃ c, s.pos c = some .teardown ∧ (s.clients c).handler = .left

/-- With nothing midway the counter is above zero exactly if a connected client subscribes. -/
theorem count_pos_iff {s : State} (path : system.Reachable s) (rest : ¬ HandlerMidway s) :
    0 < s.subAdvCount ↔
      ∃ c, IsAt s.server ConnAt.registered c ∧ (s.clients c).subs.subAdv = true := by
  have inv := subs_reachable path
  rw [inv.subAdvCount_eq rest]
  constructor
  · intro positive
    obtain ⟨c, -, subscribed⟩ := tally_pos.mp (Int.natCast_pos.mp positive)
    exact ⟨c, subscribed⟩
  · rintro ⟨c, registered, flag⟩
    have born : c < s.server.nextConn := by
      apply inv.born
      intro new
      rw [new] at flag
      cases flag
    exact Int.natCast_pos.mpr (tally_pos.mpr ⟨c, Finset.mem_range.mpr born, registered, flag⟩)

/-- **Forwarding follows the subscriptions, as long as every stop is justified when it
is carried out.** In every state of such a run with no handler and no teardown
midway, the scanner forwards exactly if a connected client subscribes. -/
theorem forwarding_follows (s : State) (path : system.ReachableWhen StopJustified s)
    (rest : ¬ HandlerMidway s) (_ : ¬ TeardownMidway s) :
    s.forwarding = true ↔
      ∃ c, IsAt s.server ConnAt.registered c ∧ (s.clients c).subs.subAdv = true := by
  have fwd := fwd_reachable path
  rw [← count_pos_iff path.reachable rest]
  constructor
  · intro isOn
    rcases fwd.off isOn with positive | ⟨c, leaving, pc⟩
    · exact positive
    · exact absurd ⟨c, by rw [pc]; rfl⟩ rest
  · intro positive
    rcases fwd.on positive with isOn | ⟨c, -, pc⟩
    · exact isOn
    · exact absurd ⟨c, by rw [pc]; rfl⟩ rest

/-- Both clients subscribe, one of them unsubscribes again. -/
def bothSubscribeSchedule : List Action :=
  twoClientsSchedule ++
  ([.subscribeAdv 0, .addAdv 0, .subscribeAdv 1, .addAdv 1, .startForwarding 0, .unsubscribeAdv 0,
   .subAdv 0 false] : List Action)

theorem forwarding_follows_two :
    ∃ s, system.ReachableWhen StopJustified s ∧
      (s.forwarding = true ↔
        ∃ c, IsAt s.server ConnAt.registered c ∧ (s.clients c).subs.subAdv = true) ∧
      s.forwarding = true := by
  have path := system.reachable_finalFrom StopJustified system.init bothSubscribeSchedule
  refine ⟨_, path, forwarding_follows _ path ?_ ?_, by decide⟩
  · rintro ⟨c, busy⟩
    match c with
    | 0 => cases busy
    | 1 => cases busy
    | c + 2 => cases busy
  · rintro ⟨c, -, left⟩
    match c with
    | 0 => cases left
    | 1 => cases left
    | c + 2 => cases left

/-- The first client's stop is decided before and carried out after the second
client's subscription and start. -/
def lateStopSchedule : List Action :=
  twoClientsSchedule ++
  ([.subscribeAdv 0, .addAdv 0, .startForwarding 0, .unsubscribeAdv 0, .subAdv 0 false,
   .subscribeAdv 1, .addAdv 1, .startForwarding 1, .stopForwarding 0 false] : List Action)

/-- Nothing is midway and a connected client subscribes, yet forwarding is off. -/
theorem forwarding_lost :
    ∃ s, system.Reachable s ∧ ¬ HandlerMidway s ∧ ¬ TeardownMidway s ∧
      IsAt s.server ConnAt.registered 1 ∧ (s.clients 1).subs.subAdv = true ∧
      ¬ (s.forwarding = true ↔
        ∃ c, IsAt s.server ConnAt.registered c ∧ (s.clients c).subs.subAdv = true) := by
  have subscribed : IsAt (system.final lateStopSchedule).server ConnAt.registered 1 ∧
      ((system.final lateStopSchedule).clients 1).subs.subAdv = true := by decide
  have off : (system.final lateStopSchedule).forwarding = false := by decide
  refine ⟨_, system.reachable_final lateStopSchedule, ?_, ?_, subscribed.1, subscribed.2, ?_⟩
  · rintro ⟨c, busy⟩
    match c with
    | 0 => cases busy
    | 1 => cases busy
    | c + 2 => cases busy
  · rintro ⟨c, -, left⟩
    match c with
    | 0 => cases left
    | 1 => cases left
    | c + 2 => cases left
  · intro follows
    have isOn := follows.mpr ⟨1, subscribed⟩
    rw [off] at isOn
    cases isOn

end NimbleProxy.Api.Subscriptions
