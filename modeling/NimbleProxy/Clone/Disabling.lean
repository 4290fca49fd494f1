/-
# Clone.Disabling -- what is left when the clone is disabled

`clone_config.h` promises that `enabled = false` stops the advertising and drops the
upstream link without a reboot. The supervisor's branch for a disabled target only
stores Disabled: it calls neither `mirror::stop_advertising`, which nobody calls, nor
`disconnect`. So the promise is kept exactly when there is nothing to do: the branch
is entered without a link, without a connect that may still make one, and without
advertising (`DisablesQuietly`).

`Record.off` lasts from the store to the next connect, so the theorem also says what
the client holds when a clone that was enabled again connects.
-/
import NimbleProxy.Clone.Attempts

namespace NimbleProxy.Clone.Attempts

open NimbleProxy.Theory NimbleProxy.Clone.Upstream ActionSystem

set_option autoImplicit false

/-- Since it went from Ready to Disabled, the clone has no upstream link that is not being torn
down and does not advertise. -/
def SwitchedOff (s : State) : Prop :=
  s.record.off = true → standing s.up.link = false ∧ s.up.advertising = false

/-- Neither a link that stands nor a connect that may still lead to one. -/
def quiet (link : Link) : Bool := !standing link && decide (link ≠ .attempting)

/-- **The condition.** A clone that was Ready enters Disabled only when there is nothing to drop
and nothing to stop. -/
def DisablesQuietly (s : State) : Action → Prop
  | .supervisor _ _ => s.up.pc = .storeDisabled → s.record.wasReady = true →
      quiet s.up.link = true ∧ s.up.advertising = false
  | _ => True

instance (s : State) : (a : Action) → Decidable (DisablesQuietly s a)
  | .supervisor .. => inferInstanceAs (Decidable (_ → _ → _ ∧ _))
  | .configure _ | .established | .attemptFailed | .linkLost _ | .onConnect _ | .onConnectFail _
  | .onDisconnect _ => inferInstanceAs (Decidable True)

/-- Outside a session, or before its first connect. -/
def early : Pc → Bool
  | .session .createClient _ | .session .storeConnecting _ | .session (.drainConnectSem .first) _
  | .session (.clearConnectOk .first) _ | .session (.connect .first) _ => true
  | .session _ _ => false
  | _ => true

/-- The invariant. -/
structure Off (s : State) : Prop where
  position : early s.up.pc = true
  link : quiet s.up.link = true
  advertising : s.up.advertising = false

section Steps

variable {s : State}

/-- The record says off after a store of Disabled only. -/
theorem off_supervisor {outcome : Bool} {mtu : UInt16}
    (off : (effect s (.supervisor outcome mtu)).record.off = true) :
    (s.record.off = true ∧ ∀ phase target, s.up.pc ≠ .session (.connect phase) target) ∨
      (s.up.pc = .storeDisabled ∧ s.record.wasReady = true) := by
  have noted : (s.record.note outcome s.up.pc).off = true := by
    simp only [effect] at off
    cases ends : returned s.up.pc (Upstream.effect s.up (.supervisor outcome mtu)).pc <;>
      rw [ends] at off <;> exact off
  cases pc : s.up.pc with
  | session pos target =>
      rw [pc] at noted
      cases pos with
      | connect phase => cases noted
      | awaitConnect phase => cases outcome <;> exact .inl ⟨noted, by simp⟩
      | _ => exact .inl ⟨noted, by simp⟩
  | storeDisabled =>
      rw [pc] at noted
      exact .inr ⟨rfl, noted⟩
  | _ =>
      rw [pc] at noted
      exact .inl ⟨noted, by simp⟩

/-- Before its first connect the supervisor changes neither the link nor the advertising. -/
theorem early_supervisor (outcome : Bool) (mtu : UInt16) (position : early s.up.pc = true)
    (noConnect : ∀ phase target, s.up.pc ≠ .session (.connect phase) target) :
    early (supervisorTask s.up outcome mtu).pc = true ∧
      (supervisorTask s.up outcome mtu).link = s.up.link ∧
      (supervisorTask s.up outcome mtu).advertising = s.up.advertising := by
  unfold supervisorTask
  cases pc : s.up.pc with
  | session pos target =>
      rw [pc] at position
      cases pos with
      | createClient =>
          simp only [trySession]
          split <;> exact ⟨rfl, rfl, rfl⟩
      | storeConnecting => exact ⟨rfl, rfl, rfl⟩
      | drainConnectSem phase | clearConnectOk phase =>
          cases phase with
          | first => exact ⟨rfl, rfl, rfl⟩
          | steady => cases position
      | connect phase => exact absurd pc (noConnect phase target)
      | _ => cases position
  | snapshot | loadState target =>
      simp only
      split <;> exact ⟨rfl, rfl, rfl⟩
  | storeDisabled | storeAddress target | storeScanning target | backoff | pump =>
      exact ⟨rfl, rfl, rfl⟩

theorem off_step {a : Action} (inv : s.record.off = true → Off s) (guard : Guard s a)
    (quietly : DisablesQuietly s a) (off : (effect s a).record.off = true) : Off (effect s a) := by
  cases a with
  | supervisor outcome mtu =>
      rcases off_supervisor off with ⟨before, noConnect⟩ | ⟨pc, wasReady⟩
      · obtain ⟨position, link, advertising⟩ := inv before
        obtain ⟨position', sameLink, sameAdvertising⟩ :=
          early_supervisor outcome mtu position noConnect
        exact ⟨position', sameLink ▸ link, sameAdvertising ▸ advertising⟩
      · obtain ⟨link, advertising⟩ := quietly pc wasReady
        obtain ⟨position', sameLink, sameAdvertising⟩ :=
          early_supervisor outcome mtu (by rw [pc]; rfl) (by simp [pc])
        exact ⟨position', sameLink ▸ link, sameAdvertising ▸ advertising⟩
  | configure target => exact ⟨(inv off).position, (inv off).link, (inv off).advertising⟩
  | established | attemptFailed =>
      have link := (inv off).link
      rw [show s.up.link = _ from guard] at link
      cases link
  | linkLost announced =>
      have link := (inv off).link
      rw [show s.up.link = _ from guard] at link
      cases link
  | onConnect lost =>
      have link := (inv off).link
      rw [show s.up.link = _ from guard] at link
      cases lost with
      | false => cases link
      | true => exact ⟨(inv off).position, rfl, (inv off).advertising⟩
  | onConnectFail reason | onDisconnect reason =>
      exact ⟨(inv off).position, rfl, (inv off).advertising⟩

theorem off_reachable (path : system.ReachableWhen DisablesQuietly s) (off : s.record.off = true) :
    Off s := by
  suffices inv : s.record.off = true → Off s from inv off
  refine ReachableFrom.invariant (P := fun s => s.record.off = true → Off s) ?_ path ?_
  · intro s a before guard quietly
    exact off_step before guard quietly
  · intro off
    cases off

/-- A clone that enters Disabled with a link, a connect or its advertising keeps it. -/
theorem not_switchedOff {outcome : Bool} {mtu : UInt16} (pc : s.up.pc = .storeDisabled)
    (wasReady : s.record.wasReady = true)
    (busy : ¬ (quiet s.up.link = true ∧ s.up.advertising = false)) :
    ∃ t, system.ReachableFrom always (effect s (.supervisor outcome mtu)) t ∧ ¬ SwitchedOff t := by
  have after : (effect s (.supervisor outcome mtu)).record.off = true ∧
      (effect s (.supervisor outcome mtu)).up.link = s.up.link ∧
      (effect s (.supervisor outcome mtu)).up.advertising = s.up.advertising := by
    simp [effect, Upstream.effect, supervisorTask, pc, Record.note, Record.close, returned, wasReady]
  obtain ⟨off, sameLink, sameAdvertising⟩ := after
  by_cases trying : s.up.link = .attempting
  · -- the connect is accepted by the peer, and nobody hangs up
    refine ⟨_, .step Action.established .refl (sameLink.trans trying) trivial, fun switched => ?_⟩
    exact absurd (switched off).1 (by simp [effect, system, Upstream.effect, standing])
  · refine ⟨_, .refl, fun switched => busy ?_⟩
    obtain ⟨link, advertising⟩ := switched off
    rw [sameLink] at link
    exact ⟨by simp [quiet, link, trying], sameAdvertising ▸ advertising⟩

end Steps

/-- A session to its end. -/
def sessionSchedule : List Action :=
  ([.configure ⟨true, 7, 0⟩] : List Action) ++ List.replicate 9 (Action.supervisor true 247) ++
  ([.established, .onConnect false] : List Action) ++
  List.replicate 8 (Action.supervisor true 247) ++
  ([.onDisconnect 22] : List Action) ++ List.replicate 5 (Action.supervisor true 247) ++
  ([.established, .onConnect false] : List Action) ++ List.replicate 6 (Action.supervisor true 247)

/-- The advertising switch is off, so nothing is advertised; the peer has dropped the link when
the clone is disabled. -/
def quietSchedule : List Action :=
  sessionSchedule ++ ([.supervisor false 0, .supervisor true 0, .linkLost true, .onDisconnect 8,
    .configure ⟨false, 7, 0⟩] : List Action) ++ List.replicate 3 (Action.supervisor true 0)

/-- The clone is disabled while it is Ready. -/
def disableSchedule : List Action :=
  sessionSchedule ++ List.replicate 2 (Action.supervisor true 0) ++
  ([.configure ⟨false, 7, 0⟩] : List Action) ++ List.replicate 3 (Action.supervisor true 0)

end NimbleProxy.Clone.Attempts
