/-
# Clone.Registration -- whether a mirror that counts as built is registered

Three flags in three modules say that the local server is registered: `g_activated` of
`ble_httpd`, the mirror's `g_built` and the supervisor's `g_mirror_built`. The call that
matters is `NimBLEServer::start`. With `ble_httpd` compiled in it is made by `activate`,
which has no result and is done once: if it fails, `finalize_server` sets `g_built` all
the same, nobody calls `start` again, and the supervisor goes on to Ready.

`registered` is the number of rows at the last call that returned true, so a mirror is
registered as it stands if it is the number of rows.
-/
import NimbleProxy.Clone.Session
import NimbleProxy.Clone.ReadyInvariant

namespace NimbleProxy.Clone.Session

open NimbleProxy.Theory NimbleProxy.Clone.Mirror ActionSystem

set_option autoImplicit false

/-! ## The property and the condition -/

/-- After the last row was added, some `NimBLEServer::start` has returned true. -/
def Registered (m : Mirror.State) : Prop := m.registered = some m.chars.length

/-- A built mirror is registered, and Ready says that the mirror is built. -/
def BuiltIsRegistered (s : State) : Prop :=
  (s.mirror.built = true → Registered s.mirror) ∧ (s.up.gState = .ready → s.mirror.built = true)

/-- **The condition.** `NimBLEServer::start` does not fail inside `ble_httpd::activate`. -/
def StartHeeded (config : Config) (s : State) : Action → Prop
  | .upstream (.supervisor _ _) answers =>
      isAt .finalizeServer s.up.pc = true → config.bleHttpd = true → answers.started = true
  | _ => True

instance (config : Config) (s : State) : (a : Action) → Decidable (StartHeeded config s a)
  | .upstream (.supervisor ..) _ => inferInstanceAs (Decidable (_ → _ → _))
  | .upstream (.configure _) _ | .upstream .established _ | .upstream .attemptFailed _
  | .upstream (.linkLost _) _ | .upstream (.onConnect _) _ | .upstream (.onConnectFail _) _
  | .upstream (.onDisconnect _) _ | .onWrite .. | .onWriteLocated .. | .enqueueWrite _
  | .drainWrite .. => inferInstanceAs (Decidable True)

/-! ## The flags -/

/-- The positions of a first session between the discovery and the registration. -/
def beforeStart : Upstream.SessionPos → Bool
  | .buildFrom | .drainDisconnectSem | .dropMirror | .clientDisconnect | .awaitDisconnect
  | .finalizeServer => true
  | _ => false

/-- The positions after a rebind that has matched something. -/
def afterRebind : Upstream.SessionPos → Bool
  | .prime | .subscribe | .advertise | .storeReady => true
  | _ => false

/-- How the flags of the three modules hang together. -/
structure Flags (config : Config) (s : State) : Prop where
  built : s.mirror.built = true → s.up.mirrorBuilt = true
  unbuilt : ∀ pos target, s.up.pc = .session pos target → beforeStart pos = true →
    s.up.mirrorBuilt = false ∧ (pos ≠ .buildFrom → s.mirror.server = true)
  unstarted : config.bleHttpd = true → s.mirror.built = false →
    s.mirror.activated = false ∧ s.mirror.registered = none
  rebound : ∀ pos target, s.up.pc = .session pos target → afterRebind pos = true →
    s.mirror.built = true
  ready : s.up.gState = .ready → s.mirror.built = true

section Steps

variable {config : Config} {s : State} {outcome : Bool} {mtu : UInt16} {answers : Answers}

/-- `finalize_server` sets `g_built`, and with it says that it has succeeded; nothing else does. -/
theorem mirrorCall_flags (config : Config) (s : State) (outcome : Bool) (answers : Answers) :
    (∃ target, s.up.pc = .session .finalizeServer target ∧
      mirrorCall config s outcome answers = finalizeServer config s.mirror answers.started) ∨
    ((mirrorCall config s outcome answers).1.built = s.mirror.built ∧
      (mirrorCall config s outcome answers).1.activated = s.mirror.activated ∧
      (mirrorCall config s outcome answers).1.registered = s.mirror.registered ∧
      (s.mirror.server = true → (mirrorCall config s outcome answers).1.server = true) ∧
      (s.mirror.built = true →
        (mirrorCall config s outcome answers).1.chars.length = s.mirror.chars.length)) := by
  unfold mirrorCall
  split
  · right
    cases built : s.mirror.built with
    | true => simp [buildFrom, rebindUpstream, built]
    | false =>
        have grows := (buildFrom_grows config s.mirror s.discovery s.table answers.refused built).2.2
        exact ⟨grows.built.trans built, grows.started.1, grows.started.2, grows.server,
          fun isBuilt => by cases isBuilt⟩
  · right
    unfold disconnectUpstream
    split <;> simp
  · rename_i target pc
    exact .inl ⟨target, pc, rfl⟩
  · right
    unfold rebindUpstream
    split <;> simp
  · exact .inr ⟨rfl, rfl, rfl, id, fun _ => rfl⟩

theorem finalizeServer_built {m : Mirror.State} {started : Bool} (before : m.built = false)
    (built : (finalizeServer config m started).1.built = true) :
    (finalizeServer config m started).2 = true := by
  unfold finalizeServer at built ⊢
  repeat' split at built
  all_goals simp_all

/-- `g_mirror_built` is set when `finalize_server` has succeeded. -/
theorem mirrorBuilt_supervisorTask (u : Upstream.State) (outcome : Bool) (mtu : UInt16) :
    ((∀ target, u.pc ≠ .session .finalizeServer target) ∧
      (Upstream.supervisorTask u outcome mtu).mirrorBuilt = u.mirrorBuilt) ∨
    ∃ target, u.pc = .session .finalizeServer target ∧
      (Upstream.supervisorTask u outcome mtu).mirrorBuilt = (u.mirrorBuilt || outcome) := by
  unfold Upstream.supervisorTask
  cases pc : u.pc with
  | session pos target =>
      cases pos with
      | finalizeServer =>
          refine .inr ⟨target, rfl, ?_⟩
          cases outcome <;> simp [Upstream.trySession, Upstream.State.sessionFailed]
      | createClient | connect phase | awaitDisconnect | loadConnectOk phase | discover phase
      | advertise =>
          refine .inl ⟨by simp, ?_⟩
          simp only [Upstream.trySession]
          split <;> rfl
      | awaitConnect phase =>
          refine .inl ⟨by simp, ?_⟩
          simp only [Upstream.trySession]
          split
          · rfl
          · cases phase <;> rfl
      | _ => exact .inl ⟨by simp, rfl⟩
  | snapshot | loadState target =>
      refine .inl ⟨by simp, ?_⟩
      simp only
      split <;> rfl
  | _ => exact .inl ⟨by simp, rfl⟩

/-- The way to `finalize_server` begins with a discovery before `g_mirror_built`. -/
theorem beforeStart_edge {u : Upstream.State} {pos pos' : Upstream.SessionPos}
    (edge : Upstream.Edge u outcome pos' pos) (before : beforeStart pos = true) :
    (u.mirrorBuilt = false ∧ pos = .buildFrom) ∨
      (beforeStart pos' = true ∧ pos' ≠ .finalizeServer ∧ pos ≠ .buildFrom) := by
  cases edge with
  | unknown done built => exact .inl ⟨built, rfl⟩
  | captured | dropping | dropped | disconnecting | disconnected => exact .inr ⟨rfl, by simp, by simp⟩
  | _ => cases before

/-- Past the rebind means that it has succeeded. -/
theorem afterRebind_edge {u : Upstream.State} {pos pos' : Upstream.SessionPos}
    (edge : Upstream.Edge u outcome pos' pos) (past : afterRebind pos = true) :
    (outcome = true ∧ pos' = .rebind) ∨ afterRebind pos' = true := by
  cases edge with
  | rebound done => exact .inl ⟨done, rfl⟩
  | primed | subscribed | advertised => exact .inr rfl
  | _ => cases past

/-- With a server and before `g_built`, `finalize_server` sets it unless it sees the failure. -/
theorem finalizeServer_open (config : Config) {m : Mirror.State} (started : Bool) (server : m.server = true)
    (before : m.built = false) :
    (finalizeServer config m started = ({ activate m started with built := true }, true) ∧
        config.bleHttpd = true) ∨
      (finalizeServer config m started = ({ m.start true with built := true }, true) ∧
        config.bleHttpd = false) ∨
      (finalizeServer config m started = (m, false) ∧ config.bleHttpd = false) := by
  unfold finalizeServer
  rw [server, before]
  cases config.bleHttpd with
  | true => exact .inl ⟨rfl, rfl⟩
  | false =>
      cases started with
      | true => exact .inr (.inl ⟨rfl, rfl⟩)
      | false => exact .inr (.inr ⟨rfl, rfl⟩)

/-- Where no flag changes, they still hang together; Ready may be lost. -/
theorem Flags.of_same {s' : State} (flags : Flags config s) (pc : s'.up.pc = s.up.pc)
    (mirrorBuilt : s'.up.mirrorBuilt = s.up.mirrorBuilt)
    (mirror : s'.mirror.built = s.mirror.built ∧ s'.mirror.server = s.mirror.server ∧
      s'.mirror.activated = s.mirror.activated ∧ s'.mirror.registered = s.mirror.registered)
    (ready : s'.up.gState = .ready → s.up.gState = .ready) : Flags config s' := by
  obtain ⟨built, server, activated, registered⟩ := mirror
  constructor
  · rw [built, mirrorBuilt]
    exact flags.built
  · rw [pc, mirrorBuilt, server]
    exact flags.unbuilt
  · rw [built, activated, registered]
    exact flags.unstarted
  · rw [pc, built]
    exact flags.rebound
  · rw [built]
    exact fun after => flags.ready (ready after)

/-- What is known where `finalize_server` is called. -/
theorem Flags.at_finalizeServer (flags : Flags config s) {target : Upstream.Target}
    (pc : s.up.pc = .session .finalizeServer target) :
    s.mirror.server = true ∧ s.mirror.built = false := by
  obtain ⟨unbuilt, server⟩ := flags.unbuilt _ _ pc rfl
  refine ⟨server (by simp), ?_⟩
  cases built : s.mirror.built with
  | false => rfl
  | true =>
      rw [flags.built built] at unbuilt
      cases unbuilt

/-- The step that calls `finalize_server`. -/
theorem flags_finalizeServer (mtu : UInt16) (flags : Flags config s) {target : Upstream.Target}
    (pc : s.up.pc = .session .finalizeServer target)
    (answered : (finalizeServer config s.mirror answers.started).2 = outcome) :
    Flags config
      { s with
        up := Upstream.supervisorTask s.up outcome mtu
        mirror := (finalizeServer config s.mirror answers.started).1 } := by
  obtain ⟨server, before⟩ := flags.at_finalizeServer pc
  have left : ∀ pos target', (Upstream.supervisorTask s.up outcome mtu).pc = .session pos target' →
      beforeStart pos = false ∧ afterRebind pos = false := by
    intro pos target' next
    rcases Upstream.edge_supervisorTask next with ⟨-, other⟩ | ⟨pos', here, edge⟩
    · rw [pc] at other
      cases other
    · rw [pc] at here
      cases here
      cases edge
      exact ⟨rfl, rfl⟩
  have notReady : (Upstream.supervisorTask s.up outcome mtu).gState ≠ .ready := by
    intro after
    rcases Upstream.ready_supervisorTask after with ready | ⟨target', other⟩
    · rw [flags.ready ready] at before
      cases before
    · rw [pc] at other
      cases other
  constructor
  · intro built
    have done := finalizeServer_built before built
    rw [answered] at done
    simp only [Upstream.supervisorTask, pc, Upstream.trySession, done, if_true]
  · intro pos target' next here
    rw [(left pos target' next).1] at here
    cases here
  · intro httpd built
    rcases finalizeServer_open config answers.started server before with
      ⟨eq, -⟩ | ⟨-, plain⟩ | ⟨-, plain⟩
    · simp only [eq] at built
      cases built
    · rw [httpd] at plain
      cases plain
    · rw [httpd] at plain
      cases plain
  · intro pos target' next here
    rw [(left pos target' next).2] at here
    cases here
  · intro ready
    exact absurd ready notReady

/-- A rebind that has matched something was made on a built mirror. -/
theorem rebindUpstream_built {m : Mirror.State} {discovery : Nat}
    {table : List Backend.GattDiscovery.RemoteService}
    (matched : (rebindUpstream m discovery table).2 = true) : m.built = true := by
  unfold rebindUpstream at matched
  split at matched
  · assumption
  · cases matched

/-- `build_from` has a server, and before `g_built` it makes one. -/
theorem buildFrom_server {m : Mirror.State} {discovery : Nat}
    {table : List Backend.GattDiscovery.RemoteService} {refused : List Nat}
    (before : m.built = false) : (buildFrom config m discovery table refused).1.server = true :=
  (buildFrom_grows config m discovery table refused before).2.1

/-- A step of the supervisor that is not the call of `finalize_server`. -/
theorem flags_supervisor (flags : Flags config s)
    (elsewhere : ∀ target, s.up.pc ≠ .session .finalizeServer target)
    (answered : (mirrorCall config s outcome answers).2 = outcome) :
    Flags config (upstreamStep config s (.supervisor outcome mtu) answers) := by
  rcases mirrorCall_flags config s outcome answers with
    ⟨target, pc, -⟩ | ⟨built, activated, registered, server, -⟩
  · exact absurd pc (elsewhere target)
  have mirrorBuilt : (Upstream.supervisorTask s.up outcome mtu).mirrorBuilt = s.up.mirrorBuilt := by
    rcases mirrorBuilt_supervisorTask s.up outcome mtu with ⟨-, same⟩ | ⟨target, pc, -⟩
    · exact same
    · exact absurd pc (elsewhere target)
  constructor
  · simp only [upstreamStep, Upstream.effect, built, mirrorBuilt]
    exact flags.built
  · intro pos target next here
    simp only [upstreamStep, Upstream.effect, mirrorBuilt] at next ⊢
    rcases Upstream.edge_supervisorTask next with ⟨rfl, -⟩ | ⟨pos', pc, edge⟩
    · cases here
    rcases beforeStart_edge edge here with ⟨unbuilt, rfl⟩ | ⟨before, -, -⟩
    · exact ⟨unbuilt, fun other => absurd rfl other⟩
    obtain ⟨unbuilt, had⟩ := flags.unbuilt pos' target pc before
    refine ⟨unbuilt, fun _ => ?_⟩
    by_cases first : pos' = .buildFrom
    · subst first
      have mirrorOpen : s.mirror.built = false := by
        cases mirrorBuilt' : s.mirror.built with
        | false => rfl
        | true =>
            rw [flags.built mirrorBuilt'] at unbuilt
            cases unbuilt
      simp only [mirrorCall, pc]
      exact buildFrom_server mirrorOpen
    · exact server (had first)
  · simp only [upstreamStep, built, activated, registered]
    exact flags.unstarted
  · intro pos target next here
    simp only [upstreamStep, Upstream.effect, built] at next ⊢
    rcases Upstream.edge_supervisorTask next with ⟨rfl, -⟩ | ⟨pos', pc, edge⟩
    · cases here
    rcases afterRebind_edge edge here with ⟨done, rfl⟩ | past
    · simp only [mirrorCall, pc, done] at answered
      exact rebindUpstream_built answered
    · exact flags.rebound pos' target pc past
  · simp only [upstreamStep, Upstream.effect, built]
    intro after
    rcases Upstream.ready_supervisorTask after with ready | ⟨target, pc⟩
    · exact flags.ready ready
    · exact flags.rebound .storeReady target pc rfl

end Steps

theorem flags_step {config : Config} {s : State} (flags : Flags config s) (a : Action)
    (guard : Guard config s a) : Flags config (effect config s a) := by
  cases a with
  | upstream a answers =>
      cases a with
      | supervisor outcome mtu =>
          have answered : (mirrorCall config s outcome answers).2 = outcome := guard.2.2
          by_cases here : ∃ target, s.up.pc = .session .finalizeServer target
          · obtain ⟨target, pc⟩ := here
            simp only [mirrorCall, pc] at answered
            have after := flags_finalizeServer mtu flags pc answered
            exact after.of_same rfl rfl (by simp [effect, upstreamStep, mirrorCall, pc]) id
          · exact flags_supervisor flags (fun target pc => here ⟨target, pc⟩) answered
      | onDisconnect reason =>
          refine flags.of_same rfl rfl ?_ fun after => ?_
          · simp only [effect, upstreamStep, disconnectUpstream]
            split <;> exact ⟨rfl, rfl, rfl, rfl⟩
          · cases after
      | configure target | established | attemptFailed | linkLost announced | onConnect lost
      | onConnectFail reason => exact flags.of_same rfl rfl ⟨rfl, rfl, rfl, rfl⟩ id
  | onWrite chr data =>
      simp only [effect, onWrite]
      split
      · exact flags.of_same rfl rfl ⟨rfl, rfl, rfl, rfl⟩ id
      · exact flags
  | onWriteLocated row up data => exact flags.of_same rfl rfl ⟨rfl, rfl, rfl, rfl⟩ id
  | enqueueWrite request =>
      simp only [effect, enqueueWrite]
      split <;> exact flags.of_same rfl rfl ⟨rfl, rfl, rfl, rfl⟩ id
  | drainWrite request rest => exact flags.of_same rfl rfl ⟨rfl, rfl, rfl, rfl⟩ id

theorem flags_reachable {config : Config} {s : State} (path : (system config).Reachable s) :
    Flags config s := by
  refine path.invariant (P := Flags config) ?_ fun s a flags guard => flags_step flags a guard
  constructor
  · intro built
    cases built
  · intro pos target pc
    cases pc
  · intro _ _
    exact ⟨rfl, rfl⟩
  · intro pos target pc
    cases pc
  · intro ready
    cases ready

/-! ## Registration -/

section Registration

variable {config : Config} {s : State}

/-- What `finalize_server` leaves behind: a failure inside `activate` is a mirror that counts as
built and is not registered. -/
theorem registered_finalizeServer (flags : Flags config s) {target : Upstream.Target}
    (pc : s.up.pc = .session .finalizeServer target) (started : Bool) :
    ((finalizeServer config s.mirror started).1.built = true →
        Registered (finalizeServer config s.mirror started).1) ↔
      (config.bleHttpd = true → started = true) := by
  obtain ⟨server, before⟩ := flags.at_finalizeServer pc
  rcases finalizeServer_open config started server before with
    ⟨eq, httpd⟩ | ⟨eq, plain⟩ | ⟨eq, plain⟩
  · obtain ⟨activated, registered⟩ := flags.unstarted httpd before
    rw [eq]
    cases started with
    | true => simp [activate, State.start, activated, Registered]
    | false => simp [activate, State.start, activated, registered, httpd, Registered]
  · rw [eq]
    simp [State.start, Registered, plain]
  · rw [eq]
    simp [before, plain]

theorem registered_step (flags : Flags config s)
    (registered : s.mirror.built = true → Registered s.mirror) (a : Action)
    (heeded : StartHeeded config s a) :
    (effect config s a).mirror.built = true → Registered (effect config s a).mirror := by
  cases a with
  | upstream a answers =>
      cases a with
      | supervisor outcome mtu =>
          simp only [effect, upstreamStep]
          rcases mirrorCall_flags config s outcome answers with
            ⟨target, pc, call⟩ | ⟨built, -, start, -, rows⟩
          · rw [call]
            exact (registered_finalizeServer flags pc answers.started).mpr
              (heeded (isAt_iff.mpr ⟨target, pc⟩))
          · intro after
            rw [built] at after
            unfold Registered
            rw [start, rows after]
            exact registered after
      | onDisconnect reason =>
          simp only [effect, upstreamStep, disconnectUpstream]
          split
          · simpa [Registered] using registered
          · exact registered
      | configure target | established | attemptFailed | linkLost announced | onConnect lost
      | onConnectFail reason => exact registered
  | onWrite chr data =>
      simp only [effect, onWrite]
      split <;> exact registered
  | onWriteLocated row up data => simpa [effect, onWriteLocated, Registered] using registered
  | enqueueWrite request =>
      simp only [effect, enqueueWrite]
      split <;> exact registered
  | drainWrite request rest => exact registered

/-- A failure that gets lost is recorded as built. -/
theorem unregistered_step (flags : Flags config s) (a : Action)
    (lost : ¬ StartHeeded config s a) : ¬ BuiltIsRegistered (effect config s a) := by
  match a with
  | .upstream (.supervisor outcome mtu) answers =>
      simp only [StartHeeded, not_forall] at lost
      obtain ⟨here, httpd, failed⟩ := lost
      obtain ⟨target, pc⟩ := isAt_iff.mp here
      intro after
      have registered := after.1
      simp only [effect, upstreamStep, mirrorCall, pc] at registered
      exact failed ((registered_finalizeServer flags pc answers.started).mp registered httpd)
  | .upstream (.configure _) _ | .upstream .established _ | .upstream .attemptFailed _
  | .upstream (.linkLost _) _ | .upstream (.onConnect _) _ | .upstream (.onConnectFail _) _
  | .upstream (.onDisconnect _) _ | .onWrite .. | .onWriteLocated .. | .enqueueWrite _
  | .drainWrite .. => exact absurd trivial lost

end Registration

/-- **A mirror is registered when it counts as built, unless a failed start gets lost in
`activate`.** In every state of a run in which `NimBLEServer::start` does not fail inside
`ble_httpd::activate`, a built mirror is registered with all its rows, and Ready says that it is
built. A step in which it does fail there leaves a mirror that counts as built and is not
registered. -/
theorem mirror_registered (config : Config) :
    (∀ s, (system config).ReachableWhen (StartHeeded config) s → BuiltIsRegistered s) ∧
      ∀ s a, (system config).Reachable s → Guard config s a → ¬ StartHeeded config s a →
        ¬ BuiltIsRegistered (effect config s a) := by
  constructor
  · intro s path
    refine ⟨?_, (flags_reachable path.reachable).ready⟩
    refine path.invariant_with (K := Flags config)
      (P := fun s => s.mirror.built = true → Registered s.mirror) (fun _ => flags_reachable) ?_ ?_
    · intro built
      cases built
    · intro s a flags registered _ heeded
      exact registered_step flags registered a heeded
  · intro s a path _ lost
    exact unregistered_step (flags_reachable path) a lost

/-- With `ble_httpd` the first session registers its mirror and reaches Ready. -/
theorem mirror_registered_bring_up :
    ∃ s, (system ⟨64, 64, true⟩).ReachableWhen (StartHeeded ⟨64, 64, true⟩) s ∧
      s.up.gState = .ready ∧ BuiltIsRegistered s := by
  refine ⟨(system ⟨64, 64, true⟩).finalFrom (StartHeeded ⟨64, 64, true⟩) {} bringUpSchedule,
    ActionSystem.reachable_finalFrom _ _ _ _, by decide +kernel, ?_⟩
  exact (mirror_registered ⟨64, 64, true⟩).1 _ (ActionSystem.reachable_finalFrom _ _ _ _)

/-- The first session with a `NimBLEServer::start` that fails. -/
def failedStartSchedule : List Action :=
  capturedSchedule ++ steps 1 ++
  ([.upstream (.supervisor true 247) { started := false }] : List Action) ++
  steps 3 ++ [link .established, link (.onConnect false)] ++ steps 8

/-- `NimBLEServer::start` fails once, inside `activate`: the supervisor goes on to Ready with a
mirror of which no service is registered. -/
theorem ready_unregistered :
    ¬ ∀ config s, (system config).Reachable s → BuiltIsRegistered s := by
  intro always
  let s := (system ⟨64, 64, true⟩).final failedStartSchedule
  have registered := (always ⟨64, 64, true⟩ s (ActionSystem.reachable_final _ _)).1
  have built : s.mirror.built = true ∧ s.up.gState = .ready ∧ s.mirror.registered = none := by
    decide +kernel
  have some := registered built.1
  rw [Registered, built.2.2] at some
  cases some

end NimbleProxy.Clone.Session
