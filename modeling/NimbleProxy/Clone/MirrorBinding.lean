/-
# Clone.MirrorBinding -- mirror rows and a link that is gone

`disconnect_upstream` is there so that no row keeps a remote characteristic of a
dropped link, and `onDisconnect` calls it. It returns at once while `g_built` is
false, though: what `build_from` has bound in the first session stays bound through
the intermediate disconnect, until the rows are bound anew. And a drop that is
delivered between `discoverAttributes` and `rebind_upstream` comes too early: the
rows are bound to the client's old table afterwards.

`Detaches` names the two: `onDisconnect` finds `g_built` set or no row bound, and a
row is bound while there is a link. From a state in which no row points into a
dropped link, the runs whose every step meets it are exactly those in which none
ever does.
-/
import NimbleProxy.Clone.ReadyInvariant
import NimbleProxy.Clone.Session

namespace NimbleProxy.Clone.Session

open NimbleProxy.Theory NimbleProxy.Clone.Mirror ActionSystem
open NimbleProxy.Backend.GattDiscovery (RemoteService)

set_option autoImplicit false

/-- With the link down and its `onDisconnect` processed, no row has a remote characteristic. -/
def Detached (s : State) : Prop := s.up.link.isUp = false → s.mirror.Unbound

instance (s : State) : Decidable (Detached s) := inferInstanceAs (Decidable (_ → _))

/-- **The condition.** What a step of the supervisor binds, it binds on a link, and `onDisconnect`
finds the server registered or nothing bound. -/
def Detaches (config : Config) (s : State) : Action → Prop
  | .upstream (.supervisor _ _) answers =>
      (isAt .buildFrom s.up.pc = true → s.up.link.isUp = true ∨
        BuildsNothing config s.mirror s.table answers.refused) ∧
      (isAt .rebind s.up.pc = true → s.up.link.isUp = true ∨ RebindsNothing s.mirror s.table)
  | .upstream (.onDisconnect _) _ => s.mirror.built = true ∨ s.mirror.Unbound
  | _ => True

instance (config : Config) (s : State) : (a : Action) → Decidable (Detaches config s a)
  | .upstream (.supervisor ..) _ => inferInstanceAs (Decidable ((_ → _ ∨ _) ∧ (_ → _ ∨ _)))
  | .upstream (.onDisconnect _) _ => inferInstanceAs (Decidable (_ ∨ _))
  | .upstream (.configure _) _ | .upstream .established _ | .upstream .attemptFailed _
  | .upstream (.linkLost _) _ | .upstream (.onConnect _) _ | .upstream (.onConnectFail _) _
  | .onWrite .. | .onWriteLocated .. | .enqueueWrite _ | .drainWrite .. =>
      inferInstanceAs (Decidable True)

section Steps

variable {config : Config} {s : State}

/-- What a call of the mirror does to the rows, for the question whether one is bound. -/
theorem unbound_mirrorCall {outcome : Bool} {answers : Answers} (detached : s.mirror.Unbound)
    (notBuild : isAt .buildFrom s.up.pc = false) (notRebind : isAt .rebind s.up.pc = false) :
    (mirrorCall config s outcome answers).1.Unbound := by
  unfold mirrorCall
  split
  · rename_i target pc
    simp [pc, isAt] at notBuild
  · exact unbound_disconnectUpstream.mpr (.inr detached)
  · rcases finalizeServer_spec config s.mirror answers.started with same | ⟨_, _, same⟩ <;>
      rw [same] <;> exact detached
  · rename_i target pc
    simp [pc, isAt] at notRebind
  · exact detached

theorem detached_supervisor {outcome : Bool} {mtu : UInt16} {answers : Answers}
    (detached : Detached s) (guard : Guard config s (.upstream (.supervisor outcome mtu) answers)) :
    Detached (effect config s (.upstream (.supervisor outcome mtu) answers)) ↔
      Detaches config s (.upstream (.supervisor outcome mtu) answers) := by
  by_cases build : isAt .buildFrom s.up.pc = true
  · obtain ⟨target, pc⟩ := isAt_iff.mp build
    simp only [Detached, Detaches, effect, upstreamStep, Upstream.effect, Upstream.supervisorTask,
      Upstream.trySession, mirrorCall, pc, isAt, unbound_buildFrom]
    cases s.up.link.isUp <;> simp
  by_cases rebind : isAt .rebind s.up.pc = true
  · obtain ⟨target, pc⟩ := isAt_iff.mp rebind
    simp only [Detached, Detaches, effect, upstreamStep, Upstream.effect, Upstream.supervisorTask,
      Upstream.trySession, mirrorCall, pc, isAt, unbound_rebindUpstream]
    cases s.up.link.isUp <;> simp
  refine ⟨fun _ => ⟨fun at_ => absurd at_ build, fun at_ => absurd at_ rebind⟩, fun _ down => ?_⟩
  -- the supervisor takes no link away, so it was down before the step
  have before : s.up.link.isUp = false := by
    by_contra isUp
    have still := Upstream.isUp_supervisorTask outcome mtu guard.1 (by simpa using isUp)
    exact absurd (down.symm.trans still) (by simp)
  exact unbound_mirrorCall (detached before) (by simpa using build) (by simpa using rebind)

/-- **One step.** From a state without a row that points into a dropped link, the condition is
what keeps it so. -/
theorem detached_step {a : Action} (detached : Detached s) (guard : Guard config s a) :
    Detached (effect config s a) ↔ Detaches config s a := by
  cases a with
  | upstream a answers =>
      cases a with
      | supervisor outcome mtu => exact detached_supervisor detached guard
      | onDisconnect reason =>
          simp only [Detached, Detaches, effect, upstreamStep, unbound_disconnectUpstream]
          exact ⟨fun clean => clean rfl, fun clean _ => clean⟩
      | configure target => exact ⟨fun _ => trivial, fun _ => detached⟩
      | established | linkLost announced | onConnect lost =>
          refine ⟨fun _ => trivial, fun _ down => ?_⟩
          cases down
      | attemptFailed | onConnectFail reason =>
          refine ⟨fun _ => trivial, fun _ down => detached ?_⟩
          rw [show s.up.link = _ from guard.1]
          rfl
  | onWrite chr data =>
      refine ⟨fun _ => trivial, fun _ => ?_⟩
      simp only [effect, onWrite]
      split <;> exact detached
  | onWriteLocated row up data =>
      refine ⟨fun _ => trivial, fun _ down row' mem => ?_⟩
      simp only [effect, onWriteLocated] at mem
      obtain ⟨before, among, same, -⟩ := of_mem_modify row mem
      exact same.trans (detached down before among)
  | enqueueWrite request =>
      refine ⟨fun _ => trivial, fun _ => ?_⟩
      simp only [effect, enqueueWrite]
      split <;> exact detached
  | drainWrite request rest => exact ⟨fun _ => trivial, fun _ => detached⟩

end Steps

/-- **No row points into a dropped link, as long as every step detaches.** In a run that begins
where no row does, each of its states is such a state; and the first step that does not
meet the condition leads to one in which a row points into the dropped link. -/
theorem rows_detached (config : Config) (start : State) (detached : Detached start) :
    (∀ s, (system config).ReachableFrom (Detaches config) start s → Detached s) ∧
      ∀ s a, (system config).ReachableFrom (Detaches config) start s → Guard config s a →
        ¬ Detaches config s a → ¬ Detached (effect config s a) := by
  have run : ∀ s, (system config).ReachableFrom (Detaches config) start s → Detached s := by
    intro s path
    refine path.invariant (P := Detached) ?_ detached
    intro s a before guard detaches
    exact (detached_step before guard).mpr detaches
  refine ⟨run, ?_⟩
  intro s a path guard fails after
  exact fails ((detached_step (run s path) guard).mp after)

/-- The peer drops the link of a session that is set up. -/
theorem rows_detached_drop :
    ∃ start s, (system smallConfig).Reachable start ∧ Detached start ∧
      start.mirror.chars.map MirrorChar.upstream = [some ⟨2, 0, 0⟩] ∧
      (system smallConfig).ReachableFrom (Detaches smallConfig) start s ∧
      s.up.link = .idle ∧ s.mirror.chars.length = 1 ∧ s.mirror.Unbound := by
  have clean : Detached ((system smallConfig).final bringUpSchedule) := by decide +kernel
  have path := (system smallConfig).reachable_finalFrom (Detaches smallConfig)
    ((system smallConfig).final bringUpSchedule) [link (.linkLost true), link (.onDisconnect 8)]
  exact ⟨_, _, (system smallConfig).reachable_final bringUpSchedule, clean, by decide +kernel, path,
    by decide +kernel, by decide +kernel,
    (rows_detached smallConfig _ clean).1 _ path (by decide +kernel)⟩

/-- The intermediate disconnect of the first session: the row stays bound to the first discovery. -/
theorem row_bound_after_drop :
    ∃ s, (system smallConfig).Reachable s ∧ s.up.link = .idle ∧ s.up.dropped = true ∧
      s.mirror.chars.map MirrorChar.upstream = [some ⟨1, 0, 0⟩] ∧ ¬ Detached s :=
  ⟨_, (system smallConfig).reachable_final capturedSchedule, by decide +kernel, by decide +kernel,
    by decide +kernel, by decide +kernel⟩

end NimbleProxy.Clone.Session
