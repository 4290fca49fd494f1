/-
# Api.FreeCurrent -- when the last connections-free message is the current one

Every change of the slot table is followed by a `notify_free_change` of the task
that made it, so that a message about the new table is on its way as soon as the
table has changed. It is on its way until it is broadcast; with a subscriber the
look at `g_sub_free_count` does not stop it. What can go wrong comes after the
build: a message that has become out of date in its builder's hands may be
broadcast behind the newer one.

`StaleCovered` excludes that: an outdated message is broadcast only while another
task has still to build or to broadcast a current one. Under it the invariant
`FreeInv.promised` (the last message is current, or a current one is on its way)
holds in every state, and with nobody on the way the last message is current.
-/
import NimbleProxy.Api.FreeMessages

namespace NimbleProxy.Api.FreeMessages

open NimbleProxy.Theory NimbleProxy.Backend NimbleProxy.Api.Server ActionSystem

set_option autoImplicit false

/-! ## Messages on their way -/

/-- The message describes this slot table. -/
def Current (m : FreeMessage) (slots : SlotTable) : Prop :=
  m.free = slots.freeSlots ∧ m.allocated = slots.inUseAddresses maxConnections

instance (m : FreeMessage) (slots : SlotTable) : Decidable (Current m slots) :=
  inferInstanceAs (Decidable (_ ∧ _))

/-- The task is at a call of `notify_free_change` or on its way there. -/
def heading (s : Connection.State) : Builder → Bool
  | .task c => atNotify s (.task c)
  | .host =>
      match s.host with
      | .callback _ _ _ | .notify => true
      | .idle | .resume => false

/-- A builder here, if it goes on while the slots stay as they are, broadcasts a current
message. -/
def BuildPc.Promises (slots : SlotTable) (heading : Bool) : BuildPc → Prop
  | .idle => heading = true
  | .subscribing | .building => True
  | .counted free _ _ => free = slots.freeSlots
  | .built m | .sending m => Current m slots
  | .notified => False

/-- Builder `w` has still to build or to broadcast a current message. -/
def OnItsWay (s : State) (w : Builder) : Prop :=
  (s.builders w).Promises s.backend.slots (heading s.backend w)

/-- **The condition.** An outdated message is broadcast only while a current one is on its way
elsewhere, and `send_async` does not find the client count at zero while a client is
subscribed. -/
def StaleCovered (s : State) : Action → Prop
  | .broadcast w m => Current m s.backend.slots ∨ ∃ v, v ≠ w ∧ OnItsWay s v
  | .sendAsync _ _ => s.subs.server.activeCount = 0 → ∀ c, (s.subs.clients c).subs.subFree = false
  | _ => True

structure FreeInv (s : State) : Prop where
  task : ∀ c, s.builders (.task c) ≠ .idle →
    s.backend.tasks c = .idle ∨ atNotify s.backend (.task c) = true
  host : s.builders .host ≠ .idle → s.backend.host = .notify
  adding : ∀ c, (s.subs.clients c).handler = .addFree → s.builders (.task c) = .subscribing
  promised : ∀ c, (s.subs.clients c).subs.subFree = true →
    (∃ m, s.sent.getLast? = some m ∧ Current m s.backend.slots) ∨ ∃ w, OnItsWay s w

theorem freeInv_init : FreeInv ({} : State) := by
  constructor <;> simp

/-! ## What a step of the slots does to the read-outs -/

/-- Two tables that `build_free_msg` does not tell apart. -/
def SameReadouts (slots slots' : SlotTable) : Prop :=
  slots'.freeSlots = slots.freeSlots ∧
    slots'.inUseAddresses maxConnections = slots.inUseAddresses maxConnections

theorem sameReadouts_update (slots : SlotTable) (i : SlotIdx) (slot : Slot)
    (state : slot.state = .free ↔ (slots i).state = .free)
    (address : slot.address = (slots i).address) :
    SameReadouts slots (Function.update slots i slot) := by
  have states : ∀ j, (Function.update slots i slot j).state = .free ↔ (slots j).state = .free := by
    intro j
    by_cases here : j = i
    · subst here
      rw [Function.update_self]
      exact state
    · rw [Function.update_of_ne here]
  have addresses : ∀ j, (Function.update slots i slot j).address = (slots j).address := by
    intro j
    by_cases here : j = i
    · subst here
      rw [Function.update_self]
      exact address
    · rw [Function.update_of_ne here]
  constructor
  · simp only [SlotTable.freeSlots_eq_countP, states]
  · simp only [SlotTable.inUseAddresses_eq_map, ne_eq, states, addresses]

section

variable {s : Connection.State} {a : Connection.Action}

/-- A task that goes on to its `notify_free_change`, from where no builder is at work. -/
def Arrives (s : Connection.State) (a : Connection.Action) : Builder → Prop
  | .task t => heading (Connection.effect s a) (.task t) = true ∧
      ((∃ address addressType, a = .connectLocked t address addressType) ∨
        (s.tasks t ≠ .idle ∧ atNotify s (.task t) = false))
  | .host => heading (Connection.effect s a) .host = true ∧ s.host = .idle

/-- A step leaves the read-outs alone or its task goes on to `notify_free_change`. -/
theorem readouts_step (guard : Connection.Guard s a) :
    SameReadouts s.slots (Connection.effect s a).slots ∨ ∃ w, Arrives s a w := by
  cases a with
  | connectLocked t address addressType =>
      simp only [Connection.effect, Connection.connectLocked]
      split
      · exact .inl ⟨rfl, rfl⟩
      · rename_i unused
        split
        · exact .inl ⟨rfl, rfl⟩
        · rename_i i found
          refine .inr ⟨.task t, ?_, .inl ⟨address, addressType, rfl⟩⟩
          simp [heading, atNotify, Connection.effect, Connection.connectLocked, unused, found,
            Connection.claim]
  | connectUnissued t f =>
      have at_ : s.tasks t = .claimed .unissued f := guard
      refine .inr ⟨.task t, ?_, .inr ⟨?_, ?_⟩⟩
      · simp [heading, atNotify, Connection.effect, Connection.connectUnissued]
      · simp [at_]
      · simp [atNotify, at_]
  | disconnectLocked t address =>
      left
      simp only [Connection.effect, Connection.disconnectLocked]
      split
      · exact ⟨rfl, rfl⟩
      · rename_i i found
        split
        · rename_i isConnected
          exact sameReadouts_update s.slots i _ (by simp [isConnected]) rfl
        · exact ⟨rfl, rfl⟩
  | onConnect c k lost mtu =>
      left
      simp only [Connection.effect, Connection.onConnect]
      split
      · rename_i i found
        split
        · rename_i isConnecting
          exact sameReadouts_update s.slots i _ (by simp [isConnecting]) rfl
        · exact ⟨rfl, rfl⟩
      · exact ⟨rfl, rfl⟩
  | onConnectFail c k reason =>
      simp only [Connection.effect, Connection.onConnectFail]
      cases found : s.slots.findByClientLocked c with
      | none => exact .inl ⟨rfl, rfl⟩
      | some i =>
          refine .inr ⟨.host, ?_, guard.1⟩
          simp [heading, Connection.effect, Connection.onConnectFail, found]
  | onDisconnect c k reason =>
      simp only [Connection.effect, Connection.onDisconnect]
      cases found : s.slots.findByClientLocked c with
      | none => exact .inl ⟨rfl, rfl⟩
      | some i =>
          refine .inr ⟨.host, ?_, guard.1⟩
          simp [heading, Connection.effect, Connection.onDisconnect, found]
  | connectIssue t f issued => cases issued <;> exact .inl ⟨rfl, rfl⟩
  | connectNotify t f | connectStopScan t f | releaseNotify t f cb | connectCallback t f cb
  | disconnectCall t c | established c k | attemptFailed c k | linkLost c k announced
  | hostCallback cb address r | hostNotify | hostResume => exact .inl ⟨rfl, rfl⟩

/-- The task of this action, if it is one that enters `connect` or `disconnect`. -/
def enters : Connection.Action → Option ConnId
  | .connectLocked t _ _ | .disconnectLocked t _ => some t
  | _ => none

/-- A task that is outside `connection.cpp` or at its `notify_free_change` stays there, except
by entering a function or when `notify_free_change` returns. -/
theorem tasks_stay (guard : Connection.Guard s a) {c : ConnId}
    (rests : s.tasks c = .idle ∨ atNotify s (.task c) = true) (notEntering : enters a ≠ some c)
    (notReturning : notifier a ≠ some (.task c)) : (Connection.effect s a).tasks c = s.tasks c := by
  -- a task at any other position is not the one that rests
  have other : ∀ t pc, s.tasks t = pc → pc ≠ .idle →
      (∀ f, pc ≠ .claimed .notify f) → (∀ f cb, pc ≠ .released .notify f cb) → c ≠ t := by
    rintro t pc at_ busy notClaimed notReleased rfl
    rcases rests with idle | notify
    · exact busy (at_.symm.trans idle)
    · simp only [atNotify, at_] at notify
      cases notify
  cases a with
  | connectLocked t address addressType =>
      have notT : c ≠ t := fun isT => notEntering (by rw [isT]; rfl)
      simp only [Connection.effect, Connection.connectLocked]
      split
      · rfl
      · split
        · rfl
        · exact Function.update_of_ne notT _ _
  | disconnectLocked t address =>
      have notT : c ≠ t := fun isT => notEntering (by rw [isT]; rfl)
      simp only [Connection.effect, Connection.disconnectLocked]
      split
      · rfl
      · split
        · exact Function.update_of_ne notT _ _
        · rfl
  | connectNotify t f | releaseNotify t f cb =>
      have notT : c ≠ t := fun isT => notReturning (by rw [isT]; rfl)
      exact Function.update_of_ne notT _ _
  | connectStopScan t f | connectUnissued t f | connectCallback t f cb | disconnectCall t d =>
      exact Function.update_of_ne (other t _ guard (by simp) (by simp) (by simp)) _ _
  | connectIssue t f issued =>
      have notT := other t _ guard (by simp) (by simp) (by simp)
      cases issued <;> exact Function.update_of_ne notT _ _
  | onConnect d k lost mtu =>
      simp only [Connection.effect, Connection.onConnect]
      split
      · split <;> rfl
      · rfl
  | onConnectFail d k reason =>
      simp only [Connection.effect, Connection.onConnectFail]
      split <;> rfl
  | onDisconnect d k reason =>
      simp only [Connection.effect, Connection.onDisconnect]
      split <;> rfl
  | established d k | attemptFailed d k | linkLost d k announced | hostCallback cb address r
  | hostNotify | hostResume => rfl

/-- The host task in a callback stays on its way until `notify_free_change` returns. -/
theorem host_stays (guard : Connection.Guard s a) (onWay : heading s .host = true)
    (notReturning : notifier a ≠ some .host) :
    heading (Connection.effect s a) .host = true ∧
      (s.host = .notify → (Connection.effect s a).host = .notify) := by
  have busy : s.host ≠ .idle := by
    intro idle
    simp [heading, idle] at onWay
  have unmoved : (Connection.effect s a).host = s.host →
      heading (Connection.effect s a) .host = true ∧
        (s.host = .notify → (Connection.effect s a).host = .notify) := by
    intro same
    refine ⟨?_, fun here => same.trans here⟩
    simp only [heading, same]
    exact onWay
  cases a with
  | onConnect d k lost mtu => exact absurd guard.1 busy
  | onConnectFail d k reason => exact absurd guard.1 busy
  | onDisconnect d k reason => exact absurd guard.1 busy
  | hostCallback cb address r => exact ⟨rfl, fun _ => rfl⟩
  | hostNotify => exact absurd rfl notReturning
  | hostResume =>
      have at_ : s.host = .resume := guard
      simp [heading, at_] at onWay
  | connectLocked t address addressType =>
      apply unmoved
      simp only [Connection.effect, Connection.connectLocked]
      split
      · rfl
      · split <;> rfl
  | disconnectLocked t address =>
      apply unmoved
      simp only [Connection.effect, Connection.disconnectLocked]
      split
      · rfl
      · split <;> rfl
  | connectIssue t f issued => cases issued <;> exact unmoved rfl
  | connectNotify t f | connectStopScan t f | connectUnissued t f | releaseNotify t f cb
  | connectCallback t f cb | disconnectCall t d | established d k | attemptFailed d k
  | linkLost d k announced => exact unmoved rfl

end

/-! ## A step of the slots -/

theorem see_eq_idle {before after : SlotTable} {pc : BuildPc} :
    pc.see before after = .idle ↔ pc = .idle := by
  cases pc <;> simp [BuildPc.see]

theorem current_congr {slots slots' : SlotTable} (same : SameReadouts slots slots') {m : FreeMessage}
    (current : Current m slots) : Current m slots' :=
  ⟨current.1.trans same.1.symm, current.2.trans same.2.symm⟩

section

variable {s : State} {a : Connection.Action}

theorem notified_of_proceeds (proceeds : Proceeds s a) {w : Builder} (returns : notifier a = some w) :
    s.builders w = .notified := by
  cases a with
  | connectNotify t f => exact proceeds w returns
  | releaseNotify t f cb => exact proceeds w returns
  | hostNotify => exact proceeds w returns
  | connectLocked t address addressType | disconnectLocked t address | connectStopScan t f
  | connectIssue t f issued | connectUnissued t f | connectCallback t f cb | disconnectCall t d
  | established d k | attemptFailed d k | linkLost d k announced | onConnect d k lost mtu
  | onConnectFail d k reason | onDisconnect d k reason | hostCallback cb address r | hostResume =>
      cases returns

theorem idle_of_proceeds (proceeds : Proceeds s a) {t : ConnId} (enter : enters a = some t) :
    s.builders (.task t) = .idle := by
  cases a with
  | connectLocked u address addressType =>
      obtain rfl := Option.some.inj enter
      exact proceeds.1
  | disconnectLocked u address =>
      obtain rfl := Option.some.inj enter
      exact proceeds.1
  | _ => cases enter

/-- A builder that is at work goes on where it was. -/
theorem builders_backend (proceeds : Proceeds s a) {w : Builder}
    (notDone : s.builders w ≠ .notified) :
    (backendStep s a).builders w =
      (s.builders w).see s.backend.slots (Connection.effect s.backend a).slots := by
  have notReturning : notifier a ≠ some w := fun returns =>
    notDone (notified_of_proceeds proceeds returns)
  simp only [backendStep, notReturning, if_false]

theorem busy_backend {w : Builder} (busy : (backendStep s a).builders w ≠ .idle) :
    s.builders w ≠ .idle ∧ notifier a ≠ some w := by
  simp only [backendStep] at busy
  split at busy
  · exact absurd rfl busy
  · rename_i notReturning
    exact ⟨fun idle => busy (see_eq_idle.mpr idle), notReturning⟩

/-- With the read-outs as they were, what is on its way stays on its way. -/
theorem onItsWay_backend (guard : Connection.Guard s.backend a) (proceeds : Proceeds s a)
    (same : SameReadouts s.backend.slots (Connection.effect s.backend a).slots) {w : Builder}
    (onWay : OnItsWay s w) : OnItsWay (backendStep s a) w := by
  have notDone : s.builders w ≠ .notified := by
    intro done
    simp only [OnItsWay, done, BuildPc.Promises] at onWay
  unfold OnItsWay
  rw [builders_backend proceeds notDone]
  unfold OnItsWay at onWay
  cases pc : s.builders w with
  | idle =>
      rw [pc] at onWay
      have notReturning : notifier a ≠ some w := fun returns =>
        notDone (notified_of_proceeds proceeds returns)
      show heading (Connection.effect s.backend a) w = true
      cases w with
      | task c =>
          have atCall : atNotify s.backend (.task c) = true := onWay
          have notEntering : enters a ≠ some c := by
            intro enter
            have isIdle : s.backend.tasks c = .idle := by
              cases a with
              | connectLocked u address addressType =>
                  obtain rfl := Option.some.inj enter
                  exact guard
              | disconnectLocked u address =>
                  obtain rfl := Option.some.inj enter
                  exact guard
              | _ => cases enter
            simp [atNotify, isIdle] at atCall
          have stays := tasks_stay guard (.inr atCall) notEntering notReturning
          simp only [heading, atNotify, stays]
          exact onWay
      | host => exact (host_stays guard onWay notReturning).1
  | subscribing | building => trivial
  | counted free claims releases =>
      rw [pc] at onWay
      exact Eq.trans onWay same.1.symm
  | built m | sending m =>
      rw [pc] at onWay
      exact current_congr same onWay
  | notified => exact absurd pc notDone

theorem inv_backend (inv : FreeInv s) (guard : Connection.Guard s.backend a)
    (proceeds : Proceeds s a) : FreeInv (backendStep s a) := by
  refine ⟨?_, ?_, ?_, ?_⟩
  · intro c busy
    obtain ⟨was, notReturning⟩ := busy_backend busy
    have rests := inv.task c was
    have stays := tasks_stay guard rests
      (fun enter => was (idle_of_proceeds proceeds enter)) notReturning
    simp only [atNotify, backendStep, stays]
    exact rests
  · intro busy
    obtain ⟨was, notReturning⟩ := busy_backend busy
    have at_ := inv.host was
    exact (host_stays guard (by simp [heading, at_]) notReturning).2 at_
  · intro c adding
    have subscribing := inv.adding c adding
    rw [builders_backend proceeds (by simp [subscribing]), subscribing]
    rfl
  · intro c subscribed
    rcases readouts_step guard with same | ⟨w, arrives⟩
    · rcases inv.promised c subscribed with ⟨m, last, current⟩ | ⟨w, onWay⟩
      · exact .inl ⟨m, last, current_congr same current⟩
      · exact .inr ⟨w, onItsWay_backend guard proceeds same onWay⟩
    · -- the task that changed the table is about to report it
      refine .inr ⟨w, ?_⟩
      have isIdle : s.builders w = .idle := by
        by_contra busy
        cases w with
        | task t =>
            rcases arrives.2 with ⟨address, addressType, rfl⟩ | ⟨inside, notThere⟩
            · exact busy (idle_of_proceeds proceeds rfl)
            · rcases inv.task t busy with idle | there
              · exact inside idle
              · rw [notThere] at there
                cases there
        | host =>
            have at_ := inv.host busy
            rw [arrives.2] at at_
            cases at_
      unfold OnItsWay
      rw [builders_backend proceeds (by simp [isIdle]), isIdle]
      cases w <;> exact arrives.1

end

/-! ## The steps of the clients and the builders -/

section

variable {s : State}

/-- A step of the clients other than `handle_subscribe_free` subscribes nobody. -/
theorem subs_flags {s : Subscriptions.State} {a : Subscriptions.Action}
    (other : ∀ c, a ≠ .subscribeFree c) (c : ConnId) :
    (((Subscriptions.effect s a).clients c).subs.subFree = true →
      (s.clients c).subs.subFree = true) ∧
    (((Subscriptions.effect s a).clients c).handler = .addFree →
      (s.clients c).handler = .addFree) := by
  -- one client gets new flags and a new position, or none
  have moved : ∀ d client, (client.subs.subFree = true → (s.clients d).subs.subFree = true) →
      (client.handler ≠ .addFree) →
      ((Function.update s.clients d client c).subs.subFree = true →
        (s.clients c).subs.subFree = true) ∧
      ((Function.update s.clients d client c).handler = .addFree →
        (s.clients c).handler = .addFree) := by
    intro d client flag notAdding
    by_cases here : c = d
    · subst here
      rw [Function.update_self]
      exact ⟨flag, fun adding => absurd adding notAdding⟩
    · rw [Function.update_of_ne here]
      exact ⟨fun set => set, fun adding => adding⟩
  cases a with
  | server a => exact ⟨fun set => set, fun adding => adding⟩
  | subscribeFree d => exact absurd rfl (other d)
  | subscribeAdv d =>
      simp only [Subscriptions.effect, Subscriptions.subscribeAdv]
      split
      · exact ⟨fun set => set, fun adding => adding⟩
      · exact moved d _ (fun set => set) (by simp)
  | unsubscribeAdv d =>
      simp only [Subscriptions.effect, Subscriptions.unsubscribeAdv]
      split
      · exact moved d _ (fun set => set) (by simp)
      · exact ⟨fun set => set, fun adding => adding⟩
  | leaveAdv d =>
      simp only [Subscriptions.effect, Subscriptions.leaveAdv]
      split <;> exact moved d _ (fun set => set) (by simp)
  | leaveFree d =>
      simp only [Subscriptions.effect, Subscriptions.leaveFree]
      split
      · exact moved d _ (fun never => by cases never) (by simp)
      · exact moved d _ (fun set => set) (by simp)
  | addAdv d =>
      refine moved d _ (fun set => set) ?_
      simp only
      split <;> simp
  | subAdv d leaving =>
      refine moved d _ (fun set => set) ?_
      simp only [Subscriptions.HandlerPc.afterAdv]
      split
      · simp
      · split <;> simp
  | stopForwarding d leaving =>
      refine moved d _ (fun set => set) ?_
      simp only [Subscriptions.HandlerPc.afterAdv]
      split <;> simp
  | startForwarding d | addFree d | subFree d | teardownStop d =>
      exact moved d _ (fun set => set) (by simp)

/-- A builder at work moves on: where it is in `connection.cpp` and the other builders stay. -/
theorem inv_setBuilder (inv : FreeInv s) {w : Builder} (pc : BuildPc)
    (placed : s.builders w ≠ .idle ∨ atNotify s.backend w = true)
    (notAdding : ∀ c, w = .task c → (s.subs.clients c).handler ≠ .addFree)
    (sent : List FreeMessage)
    (promised : ∀ c, (s.subs.clients c).subs.subFree = true →
      (∃ m, sent.getLast? = some m ∧ Current m s.backend.slots) ∨
        pc.Promises s.backend.slots (heading s.backend w) ∨ ∃ v, v ≠ w ∧ OnItsWay s v) :
    FreeInv { s.setBuilder w pc with sent } := by
  refine ⟨?_, ?_, ?_, ?_⟩
  · intro c busy
    by_cases here : Builder.task c = w
    · rcases placed with was | there
      · exact inv.task c (by rw [here]; exact was)
      · exact .inr (by rw [here]; exact there)
    · simp only [State.setBuilder, Function.update_of_ne here] at busy
      exact inv.task c busy
  · intro busy
    by_cases here : Builder.host = w
    · rcases placed with was | there
      · exact inv.host (by rw [here]; exact was)
      · rw [← here] at there
        exact of_decide_eq_true there
    · simp only [State.setBuilder, Function.update_of_ne here] at busy
      exact inv.host busy
  · intro c adding
    have notW : Builder.task c ≠ w := fun isW => notAdding c isW.symm adding
    simp only [State.setBuilder, Function.update_of_ne notW]
    exact inv.adding c adding
  · intro c subscribed
    rcases promised c subscribed with last | mine | ⟨v, other, onWay⟩
    · exact .inl last
    · refine .inr ⟨w, ?_⟩
      simp only [OnItsWay, State.setBuilder, Function.update_self]
      exact mine
    · refine .inr ⟨v, ?_⟩
      simp only [OnItsWay, State.setBuilder, Function.update_of_ne other]
      exact onWay

/-- Who has still to broadcast, seen from builder `w`. -/
theorem FreeInv.promised_split (inv : FreeInv s) (w : Builder) {c : ConnId}
    (subscribed : (s.subs.clients c).subs.subFree = true) :
    (∃ m, s.sent.getLast? = some m ∧ Current m s.backend.slots) ∨ OnItsWay s w ∨
      ∃ v, v ≠ w ∧ OnItsWay s v := by
  rcases inv.promised c subscribed with last | ⟨v, onWay⟩
  · exact .inl last
  · by_cases here : v = w
    · exact .inr (.inl (by rw [← here]; exact onWay))
    · exact .inr (.inr ⟨v, here, onWay⟩)

/-- A builder at work that is not in `handle_subscribe_free` before the build has its
counter incremented. -/
theorem notAdding_of_builder (inv : FreeInv s) {w : Builder} {pc : BuildPc} (at_ : s.builders w = pc)
    (notSubscribing : pc ≠ .subscribing) :
    ∀ c, w = .task c → (s.subs.clients c).handler ≠ .addFree := by
  rintro c rfl adding
  exact notSubscribing (at_.symm.trans (inv.adding c adding))

/-- A subscriber is counted, or its increment is still to come. -/
theorem counted_of_subscribed (subs : Subscriptions.SubsInv s.subs) {c : ConnId}
    (subscribed : (s.subs.clients c).subs.subFree = true) :
    (s.subs.clients c).handler = .addFree ∨ 0 < s.subs.subFreeCount := by
  by_cases adding : (s.subs.clients c).handler = .addFree
  · exact .inl adding
  · right
    have born : c < s.subs.server.nextConn := by
      apply subs.born
      intro unborn
      rw [unborn] at subscribed
      cases subscribed
    have counted : (s.subs.clients c).freeIn = true := by
      unfold Subscriptions.Client.freeIn
      split
      · rename_i isAdding
        exact absurd isAdding adding
      · rfl
      · exact subscribed
    have positive : 0 < Subscriptions.clientsWith s.subs Subscriptions.Client.freeIn :=
      tally_pos.mpr ⟨c, Finset.mem_range.mpr born, counted⟩
    rw [subs.free]
    exact Int.natCast_pos.mpr positive

theorem inv_subscribeFree (inv : FreeInv s) {c : ConnId}
    (guard : Guard s (.subscribeFree c)) : FreeInv (effect s (.subscribeFree c)) := by
  obtain ⟨-, free⟩ := guard
  refine ⟨?_, ?_, ?_, ?_⟩
  · intro d busy
    by_cases here : d = c
    · subst here
      exact .inl free.2
    · have other : Builder.task d ≠ .task c := by simpa using here
      simp only [effect, State.setBuilder, Function.update_of_ne other] at busy
      exact inv.task d busy
  · intro busy
    simp only [effect, State.setBuilder, Function.update_of_ne (by simp : Builder.host ≠ .task c)]
      at busy
    exact inv.host busy
  · intro d adding
    by_cases here : d = c
    · subst here
      simp [effect, State.setBuilder]
    · have other : Builder.task d ≠ .task c := by simpa using here
      simp only [effect, State.setBuilder, Function.update_of_ne other]
      apply inv.adding d
      simp only [effect, Subscriptions.effect, Subscriptions.subscribeFree] at adding
      split at adding
      · exact adding
      · simpa [Subscriptions.State.setClient, Function.update_of_ne here] using adding
  · intro d _
    exact .inr ⟨.task c, by simp [OnItsWay, effect, State.setBuilder, BuildPc.Promises]⟩

/-- With a subscriber, `on_free_change` goes on to build, or the subscriber is about to. -/
theorem inv_onFreeChange (subs : Subscriptions.SubsInv s.subs) (inv : FreeInv s) {w : Builder}
    (guard : Guard s (.onFreeChange w)) : FreeInv (onFreeChange s w) := by
  refine inv_setBuilder inv _ (.inr guard.2)
    (notAdding_of_builder inv guard.1 (by simp)) s.sent ?_
  intro c subscribed
  rcases counted_of_subscribed subs subscribed with adding | counted
  · have subscribing := inv.adding c adding
    refine .inr (.inr ⟨.task c, ?_, ?_⟩)
    · rintro rfl
      have never := subscribing.symm.trans guard.1
      cases never
    · simp [OnItsWay, subscribing, BuildPc.Promises]
  · rw [if_neg (Int.not_le.mpr counted)]
    exact .inr (.inl trivial)

theorem inv_step (subs : Subscriptions.SubsInv s.subs) (inv : FreeInv s) (a : Action)
    (guard : Guard s a) (covered : StaleCovered s a) : FreeInv (effect s a) := by
  cases a with
  | subs a =>
      have other : ∀ c, a ≠ .subscribeFree c := by
        rintro c rfl
        exact guard.2
      refine ⟨inv.task, inv.host, ?_, ?_⟩
      · intro c adding
        exact inv.adding c ((subs_flags other c).2 adding)
      · intro c subscribed
        exact inv.promised c ((subs_flags other c).1 subscribed)
  | backend a => exact inv_backend inv guard.1 guard.2
  | subscribeFree c => exact inv_subscribeFree inv guard
  | subscribed c =>
      refine inv_setBuilder inv .building (.inl (by simp [guard.1])) ?_ s.sent
        fun _ _ => .inr (.inl trivial)
      rintro d ⟨⟩ adding
      rw [guard.2] at adding
      cases adding
  | onFreeChange w => exact inv_onFreeChange subs inv guard
  | buildFree w =>
      have at_ : s.builders w = .building := guard
      exact inv_setBuilder inv _ (.inl (by simp [at_])) (notAdding_of_builder inv at_ (by simp))
        s.sent fun _ _ => .inr (.inl rfl)
  | buildAllocated w free claims releases =>
      have at_ : s.builders w = .counted free claims releases := guard
      have moved := inv_setBuilder inv (.built (completed s free)) (.inl (by simp [at_]))
        (notAdding_of_builder inv at_ (by simp)) s.sent (by
          intro c subscribed
          rcases inv.promised_split w subscribed with last | mine | others
          · exact .inl last
          · simp only [OnItsWay, at_, BuildPc.Promises] at mine
            exact .inr (.inl ⟨mine, rfl⟩)
          · exact .inr (.inr others))
      exact ⟨moved.task, moved.host, moved.adding, moved.promised⟩
  | sendAsync w m =>
      have at_ : s.builders w = .built m := guard
      refine inv_setBuilder inv _ (.inl (by simp [at_])) (notAdding_of_builder inv at_ (by simp))
        s.sent ?_
      intro c subscribed
      have counted : ¬ s.subs.server.activeCount = 0 := by
        intro nobody
        have unsubscribed := covered nobody c
        rw [subscribed] at unsubscribed
        cases unsubscribed
      rw [if_neg counted]
      rcases inv.promised_split w subscribed with last | mine | others
      · exact .inl last
      · simp only [OnItsWay, at_, BuildPc.Promises] at mine
        exact .inr (.inl mine)
      · exact .inr (.inr others)
  | broadcast w m =>
      have at_ : s.builders w = .sending m := guard
      refine inv_setBuilder inv _ (.inl (by simp [at_])) (notAdding_of_builder inv at_ (by simp)) _ ?_
      intro c subscribed
      rcases covered with current | others
      · exact .inl ⟨m, by simp, current⟩
      · exact .inr (.inr others)

end

theorem inv_reachable {s : State} (path : system.ReachableWhen StaleCovered s) : FreeInv s :=
  path.invariant_with (K := fun s => Subscriptions.SubsInv s.subs) (fun _ => subs_reachable)
    freeInv_init fun _ a subs inv guard covered => inv_step subs inv a guard covered

/-! ## The last message -/

/-- No handler, no NimBLE callback and no send is midway. -/
def Settled (s : State) : Prop :=
  (∀ w, s.builders w = .idle) ∧ (∀ t, s.backend.tasks t = .idle) ∧ s.backend.host = .idle

/-- Only two tasks were ever used, and they are done. -/
theorem Settled.of_two {s : State}
    (two : ∀ t < 2, s.builders (.task t) = .idle ∧ s.backend.tasks t = .idle)
    (others : ∀ t, s.builders (.task (t + 2)) = .idle ∧ s.backend.tasks (t + 2) = .idle)
    (host : s.builders .host = .idle ∧ s.backend.host = .idle) : Settled s := by
  have idle : ∀ t, s.builders (.task t) = .idle ∧ s.backend.tasks t = .idle := by
    intro t
    match t with
    | 0 => exact two 0 (by decide)
    | 1 => exact two 1 (by decide)
    | t + 2 => exact others t
  refine ⟨?_, fun t => (idle t).2, host.2⟩
  intro w
  cases w with
  | task t => exact (idle t).1
  | host => exact host.1

/-- **The last connections-free message is current**, in every run in which an outdated one is
broadcast only while a current one is on its way: with a client subscribed and nothing midway,
it has the free slots and the addresses of the slot table as it is. -/
theorem last_free_message_current (s : State) (path : system.ReachableWhen StaleCovered s)
    (settled : Settled s) (c : ConnId) (subscribed : (s.subs.clients c).subs.subFree = true) :
    ∃ m, s.sent.getLast? = some m ∧ Current m s.backend.slots := by
  obtain ⟨builders, tasks, host⟩ := settled
  rcases (inv_reachable path).promised c subscribed with last | ⟨w, onWay⟩
  · exact last
  · -- nobody is on the way
    unfold OnItsWay at onWay
    rw [builders w] at onWay
    cases w with
    | task t =>
        have never : heading s.backend (.task t) = true := onWay
        simp [heading, atNotify, tasks t] at never
    | host =>
        have never : heading s.backend .host = true := onWay
        simp [heading, host] at never

/-- A decidable condition that is stronger: every message is current when it is broadcast. -/
def Fresh (s : State) : Action → Prop
  | .broadcast _ m => Current m s.backend.slots
  | .sendAsync _ _ => s.subs.server.activeCount ≠ 0
  | _ => True

instance (s : State) : (a : Action) → Decidable (Fresh s a)
  | .broadcast _ m => inferInstanceAs (Decidable (Current m s.backend.slots))
  | .sendAsync _ _ => inferInstanceAs (Decidable (_ ≠ _))
  | .subs _ | .backend _ | .subscribeFree _ | .subscribed _ | .onFreeChange _ | .buildFree _
  | .buildAllocated .. => inferInstanceAs (Decidable True)

theorem staleCovered_of_fresh (s : State) (a : Action) (fresh : Fresh s a) : StaleCovered s a := by
  cases a with
  | broadcast w m => exact .inl fresh
  | sendAsync w m => exact fun nobody => absurd nobody fresh
  | subs a | backend a | subscribeFree c | subscribed c | onFreeChange w | buildFree w
  | buildAllocated w free claims releases => trivial

/-- Two clients are served and one subscribes. -/
def subscribedSchedule : List Action :=
  firstReadSchedule ++
  ([.buildAllocated (.task 0) 4 0 0, .sendAsync (.task 0) ⟨4, 4, []⟩,
   .broadcast (.task 0) ⟨4, 4, []⟩] : List Action)

/-- `connect` on a connection task, after `notify_free_change`. -/
def connectRest (c : ConnId) (f : Connection.Frame) : List Action :=
  [.backend (.connectNotify c f), .backend (.connectStopScan c f), .backend (.connectIssue c f true)]

/-- The other client connects to a device. -/
def reportedSchedule : List Action :=
  subscribedSchedule ++
  ([.backend (.connectLocked 1 7 0), .onFreeChange (.task 1), .buildFree (.task 1),
   .buildAllocated (.task 1) 3 0 0, .sendAsync (.task 1) ⟨4, 3, [7]⟩,
   .broadcast (.task 1) ⟨4, 3, [7]⟩] : List Action) ++ connectRest 1 ⟨0, 7, 0, slotNo 0, 0⟩

theorem last_free_message_current_connect :
    ∃ s, system.ReachableWhen StaleCovered s ∧ s.sent = [⟨4, 4, []⟩, ⟨4, 3, [7]⟩] ∧
      ∃ m, s.sent.getLast? = some m ∧ Current m s.backend.slots := by
  have path := (system.reachable_finalFrom Fresh system.init reportedSchedule).mono
    staleCovered_of_fresh
  refine ⟨_, path, by decide +kernel, last_free_message_current _ path ?_ 0 (by decide +kernel)⟩
  exact Settled.of_two (by decide +kernel) (fun _ => ⟨rfl, rfl⟩) (by decide +kernel)

/-- Both clients connect to a device; the message of the first is broadcast behind that of
the second. -/
def overtakenSchedule : List Action :=
  subscribedSchedule ++
  ([.backend (.connectLocked 0 7 0), .onFreeChange (.task 0), .buildFree (.task 0),
   .buildAllocated (.task 0) 3 0 0,
   .backend (.connectLocked 1 8 0), .onFreeChange (.task 1), .buildFree (.task 1),
   .buildAllocated (.task 1) 2 0 0, .sendAsync (.task 1) ⟨4, 2, [7, 8]⟩,
   .broadcast (.task 1) ⟨4, 2, [7, 8]⟩,
   .sendAsync (.task 0) ⟨4, 3, [7]⟩, .broadcast (.task 0) ⟨4, 3, [7]⟩] : List Action) ++
  connectRest 0 ⟨0, 7, 0, slotNo 0, 0⟩ ++ connectRest 1 ⟨1, 8, 0, slotNo 1, 1⟩

theorem outdated_free_message :
    ∃ s c, system.Reachable s ∧ Settled s ∧ (s.subs.clients c).subs.subFree = true ∧
      ¬ ∃ m, s.sent.getLast? = some m ∧ Current m s.backend.slots := by
  refine ⟨_, 0, system.reachable_final overtakenSchedule, ?_, by decide +kernel, ?_⟩
  · exact Settled.of_two (by decide +kernel) (fun _ => ⟨rfl, rfl⟩) (by decide +kernel)
  · rintro ⟨m, last, current⟩
    have isLast : (system.final overtakenSchedule).sent.getLast? = some ⟨4, 3, [7]⟩ := by
      decide +kernel
    obtain rfl := Option.some.inj (isLast.symm.trans last)
    exact absurd current (by decide +kernel)

end NimbleProxy.Api.FreeMessages
