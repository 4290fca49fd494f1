/-
# Clone.QueuedWrites -- queued writes and the session they were made in

A queued write carries the bare pointer that `onWrite` has read from its row. The
next `connect` deletes the object behind it, and nothing takes the request out of
the queue before: the supervisor drains the queue while it pumps and while it backs
off, and executes what it finds there.

A request outlives its session in one of three ways: it is in the queue when a
connect is accepted, the `onWrite` that will queue it has read its pointer by then,
or that `onWrite` reads the pointer afterwards, from a row that is still bound to an
earlier discovery. `Sheds` excludes them, and then no write is executed on an object
of an earlier discovery; each of them can be continued to one that is.
-/
import NimbleProxy.Clone.Session

namespace NimbleProxy.Clone.Session

open NimbleProxy.Theory NimbleProxy.Clone.Mirror ActionSystem
open NimbleProxy.Backend.GattDiscovery (RemoteService)

set_option autoImplicit false

/-! ## The condition -/

/-- No write was executed on an object of an earlier discovery than the current one. -/
def Timely (s : State) : Prop :=
  ∀ w ∈ s.executed, ¬ w.1.upstreamChr.discovery < w.2

instance (s : State) : Decidable (Timely s) := inferInstanceAs (Decidable (∀ _ ∈ _, ¬ _ < _))

/-- `enqueue_write` accepts this many bytes. -/
def acceptable (config : Config) (data : List UInt8) : Bool :=
  decide (0 < data.length) && decide (data.length ≤ config.cacheBytes)

/-- The remote characteristic of the write that the `onWrite` under way is going to queue. -/
def HostPc.pending (config : Config) : HostPc → Option RemotePtr
  | .idle => none
  | .located _ up data => if acceptable config data then up else none
  | .enqueue request => if acceptable config request.data then some request.upstreamChr else none

/-- The remote characteristic an `onWrite` under way has read. -/
def HostPc.held : HostPc → Option RemotePtr
  | .idle => none
  | .located _ up _ => up
  | .enqueue request => some request.upstreamChr

/-- The remote characteristic that `onWrite` finds for a local one. -/
def upstreamOf (s : State) (chr : Nat) : Option RemotePtr :=
  (s.mirror.chars.findIdx? fun row => row.localChar.id == chr).bind fun i =>
    s.mirror.chars[i]?.bind MirrorChar.upstream

/-- **The condition.** A connect is accepted only when no write is queued or about to be, and a
write that will be queued finds a row bound in the current discovery. -/
def Sheds (config : Config) (s : State) : Action → Prop
  | .upstream (.supervisor outcome _) _ =>
      (connecting s.up.pc && outcome) = true → s.queue = [] ∧ s.host.pending config = none
  | .onWrite chr data =>
      acceptable config data = true → ∀ ptr ∈ upstreamOf s chr, s.discovery ≤ ptr.discovery
  | _ => True

instance (config : Config) (s : State) : (a : Action) → Decidable (Sheds config s a)
  | .upstream (.supervisor ..) _ => inferInstanceAs (Decidable (_ → _ ∧ _))
  | .onWrite .. => inferInstanceAs (Decidable (_ → ∀ _ ∈ _, _))
  | .upstream (.configure _) _ | .upstream .established _ | .upstream .attemptFailed _
  | .upstream (.linkLost _) _ | .upstream (.onConnect _) _ | .upstream (.onConnectFail _) _
  | .upstream (.onDisconnect _) _ | .onWriteLocated .. | .enqueueWrite _ | .drainWrite .. =>
      inferInstanceAs (Decidable True)

/-! ## Enough -/

/-- What is queued, and what is going to be, belongs to the current discovery; and so did what
was executed. -/
structure Fresh (config : Config) (s : State) : Prop where
  queued : ∀ r ∈ s.queue, s.discovery ≤ r.upstreamChr.discovery
  pending : ∀ ptr ∈ s.host.pending config, s.discovery ≤ ptr.discovery
  timely : Timely s

section Steps

variable {config : Config} {s : State}

theorem fresh_init : Fresh config {} := by
  constructor <;> simp [HostPc.pending, Timely]

/-- The steps that leave the queue, the host task and the discovery alone. -/
theorem Fresh.congr {s' : State} (fresh : Fresh config s) (queue : s'.queue = s.queue)
    (host : s'.host = s.host) (discovery : s'.discovery = s.discovery)
    (executed : s'.executed = s.executed) : Fresh config s' := by
  refine ⟨?_, ?_, ?_⟩
  · rw [queue, discovery]
    exact fresh.queued
  · rw [host, discovery]
    exact fresh.pending
  · intro w mem
    rw [executed] at mem
    exact fresh.timely w mem

theorem fresh_supervisor {outcome : Bool} {mtu : UInt16} {answers : Answers}
    (fresh : Fresh config s) (sheds : Sheds config s (.upstream (.supervisor outcome mtu) answers)) :
    Fresh config (effect config s (.upstream (.supervisor outcome mtu) answers)) := by
  by_cases accepted : (connecting s.up.pc && outcome) = true
  · obtain ⟨noQueue, noPending⟩ := sheds accepted
    refine ⟨?_, ?_, fresh.timely⟩
    · intro r mem
      simp only [effect, upstreamStep, noQueue] at mem
      cases mem
    · intro ptr mem
      simp only [effect, upstreamStep, noPending] at mem
      cases mem
  · exact fresh.congr rfl rfl (by simp [effect, upstreamStep, accepted]) rfl

theorem fresh_onWrite {chr : Nat} {data : List UInt8} (fresh : Fresh config s)
    (sheds : Sheds config s (.onWrite chr data)) :
    Fresh config (effect config s (.onWrite chr data)) := by
  simp only [effect, onWrite]
  cases found : s.mirror.chars.findIdx? fun row => row.localChar.id == chr with
  | none => exact fresh
  | some i =>
      refine ⟨fresh.queued, ?_, fresh.timely⟩
      intro ptr mem
      simp only [HostPc.pending] at mem
      split at mem
      · rename_i accept
        apply sheds accept ptr
        simpa [upstreamOf, found] using mem
      · cases mem

theorem pending_onWriteLocated {row : Nat} {up : Option RemotePtr} {data : List UInt8}
    (host : s.host = .located row up data) :
    (onWriteLocated s row up data).host.pending config = s.host.pending config := by
  rw [host]
  cases up <;> simp [onWriteLocated, HostPc.pending]

theorem fresh_enqueueWrite {request : WriteRequest} (fresh : Fresh config s)
    (host : s.host = .enqueue request) : Fresh config (enqueueWrite config s request) := by
  unfold enqueueWrite
  split
  · exact ⟨fresh.queued, by simp [HostPc.pending], fresh.timely⟩
  · rename_i accepted
    refine ⟨?_, by simp [HostPc.pending], fresh.timely⟩
    intro r mem
    rcases List.mem_append.mp mem with old | new
    · exact fresh.queued r old
    · obtain rfl := List.mem_singleton.mp new
      apply fresh.pending r.upstreamChr
      have accept : acceptable config r.data = true := by
        simp only [acceptable, Bool.and_eq_true, decide_eq_true_eq]
        omega
      simp [host, HostPc.pending, accept]

theorem fresh_step {a : Action} (fresh : Fresh config s) (guard : Guard config s a)
    (sheds : Sheds config s a) : Fresh config (effect config s a) := by
  cases a with
  | upstream a answers =>
      cases a with
      | supervisor outcome mtu => exact fresh_supervisor fresh sheds
      | _ => exact fresh.congr rfl rfl rfl rfl
  | onWrite chr data => exact fresh_onWrite fresh sheds
  | onWriteLocated row up data =>
      refine ⟨fresh.queued, ?_, fresh.timely⟩
      intro ptr mem
      simp only [effect] at mem
      rw [pending_onWriteLocated guard] at mem
      exact fresh.pending ptr mem
  | enqueueWrite request => exact fresh_enqueueWrite fresh guard
  | drainWrite request rest =>
      have queue : s.queue = request :: rest := guard.1
      refine ⟨?_, fresh.pending, ?_⟩
      · intro r mem
        exact fresh.queued r (by rw [queue]; exact List.mem_cons_of_mem request mem)
      · intro w mem
        rcases List.mem_append.mp mem with old | new
        · exact fresh.timely w old
        · obtain rfl := List.mem_singleton.mp new
          have current := fresh.queued request (by rw [queue]; exact List.mem_cons_self)
          exact Nat.not_lt.mpr current

theorem fresh_reachable (path : (system config).ReachableWhen (Sheds config) s) : Fresh config s :=
  path.invariant (P := Fresh config)
    (fun _ _ fresh guard sheds => fresh_step fresh guard sheds) fresh_init

/-! ## Needed: the supervisor gets to its queue -/

/-- How far the supervisor is from the next `drain_writes_until`, if its calls fail where they
can. -/
def distance : Upstream.Pc → Nat
  | .backoff | .pump => 0
  | .storeDisabled => 13
  | .snapshot => 12
  | .storeAddress _ => 11
  | .loadState _ => 10
  | .storeScanning _ => 9
  | .session pos _ =>
      match pos with
      | .createClient => 8
      | .storeConnecting => 7
      | .drainConnectSem _ => 6
      | .clearConnectOk _ => 5
      | .connect _ | .loadConnectOk _ | .subscribe => 4
      | .storeDiscovering | .advertise => 3
      | .awaitConnect _ | .discover _ | .storeReady => 2
      | .hangUp | .awaitDisconnect => 1
      | .buildFrom => 12
      | .drainDisconnectSem => 11
      | .dropMirror => 10
      | .clientDisconnect => 9
      | .finalizeServer => 7
      | .rebind => 6
      | .prime => 5

/-- A supervisor with a target that is not draining makes a step towards it, and no connect is
accepted. -/
theorem approaches (config : Config) (target : s.up.target = ⟨true, 1, 0⟩)
    (busy : draining s.up.pc = false) :
    ∃ outcome, Guard config s (.upstream (.supervisor outcome 0) {}) ∧
      (connecting s.up.pc && outcome) = false ∧
      distance (Upstream.supervisorTask s.up outcome 0).pc < distance s.up.pc := by
  -- a step whose call may fail, fails
  have fails (free : (mirrorCall config s false {}).2 = false)
      (closer : distance (Upstream.supervisorTask s.up false 0).pc < distance s.up.pc) :
      ∃ outcome, Guard config s (.upstream (.supervisor outcome 0) {}) ∧
        (connecting s.up.pc && outcome) = false ∧
        distance (Upstream.supervisorTask s.up outcome 0).pc < distance s.up.pc :=
    ⟨false, ⟨by simp [Upstream.Guard], by simp [Upstream.Action.onHostTask], free⟩, by simp, closer⟩
  cases pc : s.up.pc with
  | backoff | pump => simp [pc, draining] at busy
  | snapshot | storeDisabled | storeAddress t | storeScanning t =>
      rw [← pc]
      exact fails (by simp [mirrorCall, pc]) (by simp [Upstream.supervisorTask, pc, target, distance])
  | loadState t =>
      rw [← pc]
      refine fails (by simp [mirrorCall, pc]) ?_
      simp only [Upstream.supervisorTask, pc]
      split <;> simp [distance]
  | session pos t =>
      rw [← pc]
      cases pos with
      | buildFrom =>
          refine ⟨(buildFrom config s.mirror s.discovery s.table []).2,
            ⟨by simp [Upstream.Guard, Upstream.State.available, pc],
              by simp [Upstream.Action.onHostTask], by simp [Answered, mirrorCall, pc]⟩,
            by simp [connecting, pc], ?_⟩
          simp only [Upstream.supervisorTask, Upstream.trySession, pc]
          split <;> simp [distance]
      | rebind =>
          refine ⟨(rebindUpstream s.mirror s.discovery s.table).2,
            ⟨by simp [Upstream.Guard, Upstream.State.available, pc],
              by simp [Upstream.Action.onHostTask], by simp [Answered, mirrorCall, pc]⟩,
            by simp [connecting, pc], ?_⟩
          simp only [Upstream.supervisorTask, Upstream.trySession, pc]
          split <;> simp [distance]
      | finalizeServer =>
          refine ⟨(finalizeServer config s.mirror true).2,
            ⟨by simp [Upstream.Guard, Upstream.State.available, pc],
              by simp [Upstream.Action.onHostTask], by simp [Answered, mirrorCall, pc]⟩,
            by simp [connecting, pc], ?_⟩
          simp only [Upstream.supervisorTask, Upstream.trySession, pc]
          split <;> simp [distance, Upstream.State.sessionFailed]
      | awaitConnect phase =>
          refine fails (by simp [mirrorCall, pc]) ?_
          cases phase <;>
            simp [Upstream.supervisorTask, Upstream.trySession, pc, distance,
              Upstream.State.sessionFailed]
      | loadConnectOk phase =>
          refine fails (by simp [mirrorCall, pc]) ?_
          simp only [Upstream.supervisorTask, Upstream.trySession, pc]
          split
          · cases phase <;> simp [distance]
          · simp [distance, Upstream.State.sessionFailed]
      | createClient | advertise =>
          refine fails (by simp [mirrorCall, pc]) ?_
          simp only [Upstream.supervisorTask, Upstream.trySession, pc]
          split <;> simp [distance, Upstream.State.sessionFailed]
      | storeConnecting | drainConnectSem phase | clearConnectOk phase | connect phase
      | storeDiscovering | discover phase | drainDisconnectSem | dropMirror | clientDisconnect
      | awaitDisconnect | hangUp | prime | subscribe | storeReady =>
          refine fails (by simp [mirrorCall, pc]) ?_
          simp [Upstream.supervisorTask, Upstream.trySession, pc, distance,
            Upstream.State.sessionFailed]

/-- The supervisor can get to its queue before anything else happens. -/
theorem reaches_drain (config : Config) (n : Nat) :
    ∀ s : State, distance s.up.pc = n → ∃ t, (system config).ReachableFrom always s t ∧
      draining t.up.pc = true ∧ t.queue = s.queue ∧ t.host = s.host ∧ t.discovery = s.discovery := by
  induction n using Nat.strongRecOn with
  | ind n ih =>
      intro s far
      by_cases drains : draining s.up.pc = true
      · exact ⟨s, .refl, drains, rfl, rfl, rfl⟩
      -- the target is set again before each step, so that the supervisor does not stand down
      let s₁ := effect config s (.upstream (.configure ⟨true, 1, 0⟩) {})
      obtain ⟨outcome, guard, noConnect, closer⟩ :=
        approaches config (s := s₁) rfl (Bool.not_eq_true _ ▸ drains)
      obtain ⟨t, path, drained, queue, host, discovery⟩ :=
        ih _ (far ▸ closer) (effect config s₁ (.upstream (.supervisor outcome 0) {})) rfl
      have same : (effect config s₁ (.upstream (.supervisor outcome 0) {})).discovery =
          s.discovery := by
        simp only [effect, upstreamStep, noConnect]
        rfl
      refine ⟨t, ?_, drained, queue, host, discovery.trans same⟩
      refine .head (.upstream (.configure ⟨true, 1, 0⟩) {}) ?_ trivial
        (.head (.upstream (.supervisor outcome 0) {}) guard trivial path)
      exact ⟨trivial, by simp [Upstream.Action.onHostTask], trivial⟩

/-- It executes what it finds there. -/
theorem drains_all (config : Config) (queue : List WriteRequest) :
    ∀ s : State, draining s.up.pc = true → s.queue = queue →
      ∃ t, (system config).ReachableFrom always s t ∧ t.queue = [] ∧ t.host = s.host ∧
        t.discovery = s.discovery := by
  induction queue with
  | nil =>
      intro s _ queue
      exact ⟨s, .refl, queue, rfl, rfl⟩
  | cons r rest ih =>
      intro s drains queue
      obtain ⟨t, path, empty, host, discovery⟩ :=
        ih (effect config s (.drainWrite r rest)) drains rfl
      exact ⟨t, .head (.drainWrite r rest) ⟨queue, drains⟩ trivial path, empty, host, discovery⟩

theorem late_of_queued (config : Config) {r : WriteRequest} {rest : List WriteRequest}
    (queue : s.queue = r :: rest) (old : r.upstreamChr.discovery < s.discovery) :
    ∃ t, (system config).ReachableFrom always s t ∧ ¬ Timely t := by
  obtain ⟨t, path, drains, sameQueue, -, discovery⟩ := reaches_drain config _ s rfl
  have guard : Guard config t (.drainWrite r rest) := ⟨sameQueue.trans queue, drains⟩
  refine ⟨effect config t (.drainWrite r rest),
    ReachableFrom.step (Action.drainWrite r rest) path guard trivial, ?_⟩
  intro timely
  refine timely (r, t.discovery) (List.mem_append_right _ List.mem_cons_self) ?_
  rw [discovery]
  exact old

theorem late_of_enqueue {request : WriteRequest} (host : s.host = .enqueue request)
    (accept : acceptable config request.data = true)
    (old : request.upstreamChr.discovery < s.discovery) :
    ∃ t, (system config).ReachableFrom always s t ∧ ¬ Timely t := by
  obtain ⟨u, toDrain, drains, -, sameHost, sameDiscovery⟩ := reaches_drain config _ s rfl
  obtain ⟨v, draining, empty, sameHost', sameDiscovery'⟩ :=
    drains_all config u.queue u drains rfl
  simp only [acceptable, Bool.and_eq_true, decide_eq_true_eq] at accept
  have room : ¬ (request.data.length = 0 ∨ config.cacheBytes < request.data.length ∨
      writeQueueDepth ≤ v.queue.length) := by
    simp only [empty, List.length_nil, writeQueueDepth]
    omega
  have queued : (effect config v (.enqueueWrite request)).queue = [request] := by
    simp only [effect, enqueueWrite, if_neg room]
    rw [empty, List.nil_append]
  have discovery : (effect config v (.enqueueWrite request)).discovery = s.discovery := by
    simp only [effect, enqueueWrite, if_neg room]
    exact sameDiscovery'.trans sameDiscovery
  obtain ⟨t, path, late⟩ := late_of_queued config queued (discovery ▸ old)
  refine ⟨t, (toDrain.trans draining).trans ?_, late⟩
  exact .head (.enqueueWrite request) ((sameHost'.trans sameHost).trans host) trivial path

/-- The `onWrite` under way gets its write executed. -/
theorem late_of_pending {ptr : RemotePtr} (pending : s.host.pending config = some ptr)
    (old : ptr.discovery < s.discovery) :
    ∃ t, (system config).ReachableFrom always s t ∧ ¬ Timely t := by
  cases host : s.host with
  | idle =>
      rw [host] at pending
      cases pending
  | located row up data =>
      have accept : acceptable config data = true ∧ up = some ptr := by
        simpa [host, HostPc.pending] using pending
      obtain ⟨accept, rfl⟩ := accept
      obtain ⟨t, path, late⟩ := late_of_enqueue
        (s := effect config s (.onWriteLocated row (some ptr) data)) rfl accept old
      exact ⟨t, .head (.onWriteLocated row (some ptr) data) host trivial path, late⟩
  | enqueue request =>
      have accept : acceptable config request.data = true ∧ request.upstreamChr = ptr := by
        simpa [host, HostPc.pending] using pending
      obtain ⟨accept, rfl⟩ := accept
      exact late_of_enqueue host accept old

/-! ## Needed: pointers are never ahead of the discovery -/

/-- Every remote characteristic that is held anywhere was made in a discovery up to now. -/
structure Past (s : State) : Prop where
  rows : s.mirror.BoundUpTo s.discovery
  held : ∀ ptr ∈ s.host.held, ptr.discovery ≤ s.discovery
  queued : ∀ r ∈ s.queue, r.upstreamChr.discovery ≤ s.discovery

theorem past_init : Past {} := by
  constructor <;> simp [Mirror.State.BoundUpTo, HostPc.held]

theorem boundUpTo_mirrorCall {outcome : Bool} {answers : Answers}
    (rows : s.mirror.BoundUpTo s.discovery) :
    (mirrorCall config s outcome answers).1.BoundUpTo s.discovery := by
  unfold mirrorCall
  split
  · exact boundUpTo_buildFrom rows
  · exact boundUpTo_disconnectUpstream rows
  · rcases finalizeServer_spec config s.mirror answers.started with same | ⟨_, _, same⟩ <;>
      rw [same] <;> exact rows
  · exact boundUpTo_rebindUpstream rows
  · exact rows

theorem past_supervisor {outcome : Bool} {mtu : UInt16} {answers : Answers} (past : Past s) :
    Past (effect config s (.upstream (.supervisor outcome mtu) answers)) := by
  have grows : s.discovery ≤
      (effect config s (.upstream (.supervisor outcome mtu) answers)).discovery := by
    simp only [effect, upstreamStep]
    split <;> omega
  refine ⟨?_, fun ptr mem => (past.held ptr mem).trans grows,
    fun r mem => (past.queued r mem).trans grows⟩
  intro row mem ptr bound
  exact (boundUpTo_mirrorCall past.rows row mem ptr bound).trans grows

theorem past_onWrite {chr : Nat} {data : List UInt8} (past : Past s) :
    Past (effect config s (.onWrite chr data)) := by
  simp only [effect, onWrite]
  split
  · rename_i i found
    refine ⟨past.rows, ?_, past.queued⟩
    intro ptr mem
    obtain ⟨row, at_, bound⟩ := Option.bind_eq_some_iff.mp mem
    exact past.rows row (List.mem_of_getElem? at_) ptr bound
  · exact past

theorem past_step {a : Action} (past : Past s) (guard : Guard config s a) :
    Past (effect config s a) := by
  cases a with
  | upstream a answers =>
      cases a with
      | supervisor outcome mtu => exact past_supervisor past
      | onDisconnect reason =>
          exact ⟨boundUpTo_disconnectUpstream past.rows, past.held, past.queued⟩
      | _ => exact ⟨past.rows, past.held, past.queued⟩
  | onWrite chr data => exact past_onWrite past
  | onWriteLocated row up data =>
      refine ⟨boundUpTo_modify row past.rows, ?_, past.queued⟩
      intro ptr mem
      apply past.held ptr
      rw [show s.host = _ from guard]
      cases up with
      | none => cases mem
      | some up => exact mem
  | enqueueWrite request =>
      simp only [effect, enqueueWrite]
      split
      · exact ⟨past.rows, by simp [HostPc.held], past.queued⟩
      · refine ⟨past.rows, by simp [HostPc.held], ?_⟩
        intro r mem
        rcases List.mem_append.mp mem with old | new
        · exact past.queued r old
        · obtain rfl := List.mem_singleton.mp new
          exact past.held r.upstreamChr (by rw [show s.host = _ from guard]; rfl)
  | drainWrite request rest =>
      refine ⟨past.rows, past.held, ?_⟩
      intro r mem
      exact past.queued r (by rw [guard.1]; exact List.mem_cons_of_mem request mem)

theorem past_reachable (path : (system config).Reachable s) : Past s :=
  path.invariant past_init fun _ _ past guard => past_step past guard

theorem HostPc.held_of_pending {host : HostPc} {ptr : RemotePtr}
    (pending : host.pending config = some ptr) : ptr ∈ host.held := by
  cases host with
  | idle => cases pending
  | located row up data =>
      simp only [HostPc.pending] at pending
      split at pending
      · exact pending
      · cases pending
  | enqueue request =>
      simp only [HostPc.pending] at pending
      split at pending
      · exact pending
      · cases pending

/-- A step that does not shed lets a write outlive its session. -/
theorem late_of_not_sheds {a : Action} (past : Past s) (keeps : ¬ Sheds config s a) :
    ∃ t, (system config).ReachableFrom always (effect config s a) t ∧ ¬ Timely t := by
  cases a with
  | upstream a answers =>
      cases a with
      | supervisor outcome mtu =>
          obtain ⟨accepted, left⟩ := Classical.not_imp.mp keeps
          have next : (effect config s (.upstream (.supervisor outcome mtu) answers)).discovery =
              s.discovery + 1 := by
            simp only [effect, upstreamStep, accepted, if_true]
          cases queue : s.queue with
          | cons r rest =>
              have old := past.queued r (by rw [queue]; exact List.mem_cons_self)
              exact late_of_queued config queue (by omega)
          | nil =>
              have pending : s.host.pending config ≠ none := fun none => left ⟨queue, none⟩
              obtain ⟨ptr, some⟩ := Option.ne_none_iff_exists'.mp pending
              have old := past.held ptr (HostPc.held_of_pending some)
              exact late_of_pending some (by omega)
      | _ => exact absurd trivial keeps
  | onWrite chr data =>
      obtain ⟨accept, stale⟩ := Classical.not_imp.mp keeps
      obtain ⟨ptr, mem, old⟩ : ∃ ptr ∈ upstreamOf s chr, ptr.discovery < s.discovery := by
        simpa using stale
      obtain ⟨i, found, bound⟩ := Option.bind_eq_some_iff.mp mem
      have located : effect config s (.onWrite chr data) =
          { s with host := .located i (some ptr) data } := by
        simp only [effect, onWrite, found, bound]
      have pending : (HostPc.located i (some ptr) data).pending config = some ptr := by
        simp only [HostPc.pending, accept, if_true]
      rw [located]
      exact late_of_pending pending old
  | onWriteLocated row up data => exact absurd trivial keeps
  | enqueueWrite request => exact absurd trivial keeps
  | drainWrite request rest => exact absurd trivial keeps

end Steps

def levelWrite : WriteRequest := ⟨⟨2, 0, 0⟩, [80], true⟩

/-- A local central writes the level. -/
def writeSchedule : List Action :=
  [.onWrite 0 [80], .onWriteLocated 0 (some ⟨2, 0, 0⟩) [80], .enqueueWrite levelWrite]

/-- The write comes while the supervisor is between two looks at its queue, and then the link
drops; the supervisor is about to connect again. -/
def leftBehindSchedule : List Action :=
  bringUpSchedule ++ steps 3 ++ writeSchedule ++ [link (.linkLost true), link (.onDisconnect 8)] ++
  steps 6

end NimbleProxy.Clone.Session
