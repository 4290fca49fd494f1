/-
# Clone.ReadyInvariant -- what Ready says about the upstream link

`onDisconnect` flips `g_state` to Reconnecting, and the supervisor relies on that
to leave its pump loop. The last store of `try_session` writes Ready without
looking: a drop that was delivered after `discoverAttributes` returned is
overwritten, and the supervisor pumps a dead session for ever.

Between the last successful `discoverAttributes` and that store
(`SessionPos.settingUp`) the link is up exactly if no drop was delivered
(`setup_reachable`). So in the runs in which Ready is only stored without a drop
(`StoresLiveReady`), Ready means a link.
-/
import NimbleProxy.Clone.Upstream

namespace NimbleProxy.Clone.Upstream

open NimbleProxy.Theory ActionSystem

set_option autoImplicit false

/-- The positions after the session's last `discoverAttributes`. -/
def SessionPos.settingUp : SessionPos → Bool
  | .rebind | .prime | .subscribe | .advertise | .storeReady => true
  | _ => false

def Pc.settingUp : Pc → Bool
  | .session pos _ => pos.settingUp
  | _ => false

/-- While a session is being set up, the link is there unless a drop was delivered. -/
def SetupInv (s : State) : Prop :=
  s.pc.settingUp = true → (s.dropped = false ∧ s.link.isUp = true) ∨ (s.dropped = true ∧ s.link = .idle)

section

variable {s : State}

@[simp] theorem Link.isUp_hangUp (link : Link) : link.hangUp.isUp = link.isUp := by
  cases link <;> rfl

/-- A supervisor step enters the set-up by a successful discovery only, and inside
it leaves link and bookkeeping alone. -/
theorem settingUp_step (outcome : Bool) (mtu : UInt16)
    (guard : outcome = true → s.available = true)
    (after : (supervisorTask s outcome mtu).pc.settingUp = true) :
    ((supervisorTask s outcome mtu).dropped = false ∧
        (supervisorTask s outcome mtu).link.isUp = true) ∨
      (s.pc.settingUp = true ∧ (supervisorTask s outcome mtu).dropped = s.dropped ∧
        (supervisorTask s outcome mtu).link = s.link) := by
  cases next : (supervisorTask s outcome mtu).pc with
  | session pos target =>
      rw [next] at after
      rcases edge_supervisorTask next with ⟨rfl, -⟩ | ⟨pos', pc, edge⟩
      · cases after
      cases edge with
      | known phase done =>
          have there : s.link.isUp = true := by simpa [State.available, pc] using guard done
          left
          simp only [supervisorTask, pc, trySession, done, if_true]
          exact ⟨trivial, there⟩
      | rebound done =>
          refine .inr ⟨by rw [pc]; rfl, ?_⟩
          simp only [supervisorTask, pc]
          exact ⟨rfl, rfl⟩
      | primed | subscribed =>
          refine .inr ⟨by rw [pc]; rfl, ?_⟩
          simp only [supervisorTask, pc]
          exact ⟨rfl, rfl⟩
      | advertised =>
          refine .inr ⟨by rw [pc]; rfl, ?_⟩
          simp only [supervisorTask, pc, trySession]
          split <;> exact ⟨rfl, rfl⟩
      | _ => cases after
  | _ =>
      rw [next] at after
      cases after

theorem setup_step (setup : SetupInv s) (a : Action) (guard : Guard s a) : SetupInv (effect s a) := by
  intro after
  cases a with
  | supervisor outcome mtu =>
      rcases settingUp_step outcome mtu guard after with entered | ⟨before, sameDropped, sameLink⟩
      · exact .inl entered
      · simp only [effect, sameDropped, sameLink]
        exact setup before
  | configure target => exact setup after
  | established | attemptFailed | onConnectFail reason =>
      -- in the set-up the link is up or idle, so no attempt resolves there
      have link : s.link = _ := guard
      rcases setup after with ⟨-, isUp⟩ | ⟨-, idle⟩
      · rw [link] at isUp
        cases isUp
      · rw [link] at idle
        cases idle
  | linkLost announced | onConnect lost =>
      have link : s.link = _ := guard
      rcases setup after with ⟨kept, -⟩ | ⟨-, idle⟩
      · exact .inl ⟨kept, rfl⟩
      · rw [link] at idle
        cases idle
  | onDisconnect reason => exact .inr ⟨rfl, rfl⟩

end

theorem setup_reachable {s : State} (path : system.Reachable s) : SetupInv s :=
  path.invariant (fun after => by cases after) fun _ a setup guard => setup_step setup a guard

/-! ## Ready -/

def Pc.storesReady : Pc → Bool
  | .session .storeReady _ => true
  | _ => false

/-- If this step is the store of Ready, no `onDisconnect` was delivered since the
session's last successful `discoverAttributes`. -/
def StoresLiveReady (s : State) : Action → Prop
  | .supervisor _ _ => s.pc.storesReady = true → s.dropped = false
  | _ => True

instance (s : State) : (a : Action) → Decidable (StoresLiveReady s a)
  | .supervisor _ _ => inferInstanceAs (Decidable (s.pc.storesReady = true → s.dropped = false))
  | .configure _ | .established | .attemptFailed | .linkLost _ | .onConnect _ | .onConnectFail _
  | .onDisconnect _ => inferInstanceAs (Decidable True)

/-- Ready says that the link is up, or lost without its `onDisconnect` delivered. -/
def ReadyIsUp (s : State) : Prop :=
  s.gState = .ready → s.link.isUp = true

/-- The supervisor takes no established link away: it hangs up and waits. -/
theorem isUp_supervisorTask {s : State} (outcome : Bool) (mtu : UInt16)
    (guard : outcome = true → s.available = true) (isUp : s.link.isUp = true) :
    (supervisorTask s outcome mtu).link.isUp = true := by
  rcases link_supervisorTask s outcome mtu with same | ⟨hungUp, -⟩ | ⟨accepted, -, phase, target, pc⟩
  · rw [same]
    exact isUp
  · rw [hungUp, Link.isUp_hangUp]
    exact isUp
  · -- an accepted connect found the client without a link
    have idle : s.link = .idle := by simpa [State.available, pc] using guard accepted
    rw [idle] at isUp
    cases isUp

/-- Only the last store of `try_session` writes Ready. -/
theorem ready_supervisorTask {s : State} {outcome : Bool} {mtu : UInt16}
    (after : (supervisorTask s outcome mtu).gState = .ready) :
    s.gState = .ready ∨ ∃ target, s.pc = .session .storeReady target := by
  unfold supervisorTask at after
  cases pc : s.pc with
  | session pos target =>
      simp only [pc] at after
      cases pos with
      | storeReady => exact .inr ⟨target, rfl⟩
      | storeConnecting | storeDiscovering => cases after
      | createClient | connect phase | awaitDisconnect | finalizeServer | loadConnectOk phase
      | discover phase | advertise =>
          simp only [trySession] at after
          split at after <;> exact .inl after
      | awaitConnect phase =>
          simp only [trySession] at after
          split at after
          · exact .inl after
          · cases phase <;> exact .inl after
      | drainConnectSem phase | clearConnectOk phase | buildFrom | drainDisconnectSem | dropMirror
      | clientDisconnect | hangUp | rebind | prime | subscribe => exact .inl after
  | snapshot =>
      simp only [pc] at after
      split at after <;> exact .inl after
  | loadState target =>
      simp only [pc] at after
      split at after
      · exact .inl after
      · exact .inl after
  | storeDisabled | storeScanning target =>
      simp only [pc] at after
      cases after
  | storeAddress target | backoff | pump =>
      simp only [pc] at after
      exact .inl after

/-- The supervisor is in `try_session`, or backs off after it. -/
def Pc.trying : Pc → Bool
  | .session _ _ | .backoff => true
  | _ => false

/-- Until its last store a session is not Ready. -/
theorem not_ready_step {s : State} (before : s.pc.trying = true → s.gState ≠ .ready) (a : Action)
    (trying : (effect s a).pc.trying = true) : (effect s a).gState ≠ .ready := by
  cases a with
  | supervisor outcome mtu =>
      intro after
      rcases ready_supervisorTask after with ready | ⟨target, pc⟩
      · simp only [effect, supervisorTask] at trying after
        cases pc : s.pc with
        | session pos target => exact before (by rw [pc]; rfl) ready
        | backoff => exact before (by rw [pc]; rfl) ready
        | storeScanning target =>
            rw [pc] at after
            cases after
        | snapshot | loadState target =>
            simp only [pc] at trying
            split at trying <;> cases trying
        | storeDisabled | storeAddress target | pump =>
            rw [pc] at trying
            cases trying
      · simp only [effect, supervisorTask, pc, trySession] at trying
        cases trying
  | onDisconnect reason => exact UpState.noConfusion
  | _ => exact before trying

theorem not_ready_reachable {s : State} (path : system.Reachable s) (trying : s.pc.trying = true) :
    s.gState ≠ .ready := by
  suffices inv : s.pc.trying = true → s.gState ≠ .ready from inv trying
  refine path.invariant (P := fun s => s.pc.trying = true → s.gState ≠ .ready) ?_ ?_
  · intro trying
    cases trying
  · intro s a before _ trying
    exact not_ready_step before a trying

theorem ready_step {s : State} (setup : SetupInv s) (ready : ReadyIsUp s) (a : Action)
    (guard : Guard s a) (live : StoresLiveReady s a) : ReadyIsUp (effect s a) := by
  intro after
  cases a with
  | supervisor outcome mtu =>
      apply isUp_supervisorTask outcome mtu guard
      rcases ready_supervisorTask after with before | ⟨target, pc⟩
      · exact ready before
      · have kept := live (by rw [pc]; rfl)
        rcases setup (by rw [pc]; rfl) with ⟨-, isUp⟩ | ⟨dropped, -⟩
        · exact isUp
        · rw [kept] at dropped
          cases dropped
  | configure target => exact ready after
  | established | linkLost announced | onConnect lost => rfl
  | attemptFailed | onConnectFail reason =>
      have isUp := ready after
      rw [show s.link = _ from guard] at isUp
      cases isUp
  | onDisconnect reason => cases after

/-- **Ready means a link, as long as no store of Ready comes after a drop.** In every
state of a run that stores Ready only when no `onDisconnect` was delivered since
the session's last `discoverAttributes`, Ready says that the upstream link is
up or that its `onDisconnect` is still to come; and once the link is gone the
supervisor's next look at `g_state` sends it back to `try_session`. -/
theorem ready_link_up (s : State) (path : system.ReachableWhen StoresLiveReady s) :
    (s.gState = .ready → s.link.isUp = true) ∧
      ∀ target outcome mtu, s.link.isUp = false → s.pc = .loadState target →
        (effect s (.supervisor outcome mtu)).pc = .storeScanning target := by
  have ready : ReadyIsUp s := path.invariant_with (fun _ => setup_reachable)
    (fun after => by cases after) fun _ a setup ready guard live => ready_step setup ready a guard live
  refine ⟨ready, ?_⟩
  intro target outcome mtu gone pc
  have notReady : s.gState ≠ .ready := by
    intro isReady
    rw [ready isReady] at gone
    cases gone
  simp only [effect, supervisorTask, pc, notReady, if_false]

/-- The condition is exact: a store of Ready after a delivered drop leaves Ready
standing over a link that is gone. -/
theorem ready_after_drop {s : State} (path : system.Reachable s) {target : Target}
    (pc : s.pc = .session .storeReady target) (dropped : s.dropped = true) (outcome : Bool)
    (mtu : UInt16) : ¬ ReadyIsUp (effect s (.supervisor outcome mtu)) := by
  have gone : s.link = .idle := by
    rcases setup_reachable path (by rw [pc]; rfl) with ⟨kept, -⟩ | ⟨-, idle⟩
    · rw [dropped] at kept
      cases kept
    · exact idle
  intro ready
  have isUp := ready (by simp only [effect, supervisorTask, pc, trySession])
  simp only [effect, supervisorTask, pc, trySession, gone] at isUp
  cases isUp

/-- The first session up to the priming of the read caches: learn the structure,
drop the link, register the server, connect again, rediscover, rebind. -/
def bringUpSchedule : List Action :=
  ([.configure ⟨true, 7, 0⟩] : List Action) ++ List.replicate 9 (Action.supervisor true 247) ++
  ([.established, .onConnect false] : List Action) ++
  List.replicate 8 (Action.supervisor true 247) ++
  ([.onDisconnect 22] : List Action) ++ List.replicate 5 (Action.supervisor true 247) ++
  ([.established, .onConnect false] : List Action) ++ List.replicate 4 (Action.supervisor true 247)

theorem ready_link_up_session :
    ∃ s, system.ReachableWhen StoresLiveReady s ∧ s.gState = .ready ∧ s.link.isUp = true := by
  have path := system.reachable_finalFrom StoresLiveReady system.init
    (bringUpSchedule ++ List.replicate 4 (Action.supervisor true 247))
  exact ⟨_, path, by decide, (ready_link_up _ path).1 (by decide)⟩

/-- The peer drops the link while the read caches are primed: `onDisconnect` is
delivered, Ready is stored over Reconnecting, and the supervisor pumps on. -/
theorem ready_without_link :
    ∃ s, system.Reachable s ∧ s.gState = .ready ∧ s.link = .idle ∧ s.dropped = true ∧
      (system.finalFrom always s (List.replicate 4 (.supervisor true 247))).pc = .pump := by
  have path := system.reachable_final (bringUpSchedule ++
    ([.linkLost true, .onDisconnect 8] : List Action) ++
    List.replicate 4 (Action.supervisor true 247))
  exact ⟨_, path, by decide, by decide, by decide, by decide⟩

end NimbleProxy.Clone.Upstream
