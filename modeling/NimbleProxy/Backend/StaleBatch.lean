/-
# Backend.StaleBatch -- stopping does not stop what is under way

`stop_forwarding` clears the flag and then the batch, "so we don't leak a stale batch into
the next session". Two windows stay open. An `onResult` that has read the flag before the
stop appends after it; and a flush that has taken the batch out before the stop sends it
after it. Whoever subscribes next gets adverts of the time before.

So nothing stale is sent in the runs in which an `onResult` that appends has begun after
the last stop returned, and a stop returns with nothing in the batch or in the hands of the
flush task. A step against this condition can always be followed by a leak.
-/
import NimbleProxy.Backend.AdvertBatching

namespace NimbleProxy.Backend.AdvertBatching

open NimbleProxy.Theory ActionSystem

set_option autoImplicit false

/-- No call of `stop_forwarding` has returned between the beginning of the advert's `onResult` and
its hand-over. -/
def NoStale (s : State) : Prop := ∀ h ∈ s.handed, ∀ a ∈ h.batch.list, h.stops ≤ a.begunAfter

instance (s : State) : Decidable (NoStale s) := inferInstanceAs (Decidable (∀ _ ∈ _, ∀ _ ∈ _, _))

/-- Taken from the air and not disposed of: in the hands of the flush task, or in the batch. -/
def State.underWay (s : State) : List Advert := s.flush.list ++ s.pending.list

/-- **The condition.** What is appended came after the last stop; a stop that returns leaves nothing
behind. -/
def InSession (s : State) : Action → Prop
  | .append => s.pending.count < batchSize → ∀ advert ∈ s.host.advert, s.stops ≤ advert.begunAfter
  | .stopReturn _ => s.underWay = []
  | _ => True

instance (s : State) : (a : Action) → Decidable (InSession s a)
  | .append => inferInstanceAs (Decidable (_ → ∀ _ ∈ _, _))
  | .stopReturn _ => decidable_of_iff _ List.isEmpty_iff
  | .begin _ | .testFlag | .testClient _ | .drain | .flushClient _ | .send | .startForwarding _
  | .stopStore _ | .stopClear _ => isTrue trivial

/-! ## What a step does to the adverts under way -/

section Step

variable {s t : State} {a : Action}

/-- Only `onResult` adds to them. -/
theorem mem_underWay {x : Advert} (fired : Fires s a t) (mem : x ∈ t.underWay) :
    x ∈ s.underWay ∨ a = .append ∧ s.pending.count < batchSize ∧ x ∈ s.host.advert := by
  cases fired with
  | begin | testFlag | testClient | drop | drainNothing | startForwarding | stopStore | stopReturn =>
      exact .inl mem
  | append host room =>
      unfold State.underWay at mem
      rw [FixedArray.list_push room, ← List.append_assoc] at mem
      rcases List.mem_append.mp mem with old | new
      · exact .inl old
      · obtain rfl := List.mem_singleton.mp new
        exact .inr ⟨rfl, room, by rw [host]; rfl⟩
  | drain flush filled =>
      have taken : Flush.list (.drained (drainLocked s.pending)) = s.pending.list :=
        list_drainLocked s.pending
      unfold State.underWay at mem
      rw [taken, FixedArray.list_reset, List.append_nil] at mem
      exact .inl (List.mem_append_right _ mem)
  | flushClient flush =>
      refine .inl ?_
      rw [State.underWay, flush]
      exact mem
  | flushAlone flush => exact .inl (List.mem_append_right _ mem)
  | send flush => exact .inl (List.mem_append_right _ mem)
  | stopClear task =>
      unfold State.underWay at mem
      rw [State.setStop, FixedArray.list_reset, List.append_nil] at mem
      exact .inl (List.mem_append_left _ mem)

theorem stops_fires (fired : Fires s a t) :
    t.stops = s.stops ∨ (∃ task, a = .stopReturn task) ∧ t.stops = s.stops + 1 ∧
      t.underWay = s.underWay := by
  cases fired with
  | stopReturn task => exact .inr ⟨⟨task, rfl⟩, rfl, rfl⟩
  | _ => exact .inl rfl

theorem handed_fires (fired : Fires s a t) :
    t.handed = s.handed ∨ ∃ ctx, s.flush = .sending ctx ∧ t.handed = s.handed ++ [⟨ctx, s.stops⟩] := by
  cases fired with
  | send flush => exact .inr ⟨_, flush, rfl⟩
  | _ => exact .inl rfl

theorem advert_fires {x : Advert} (fired : Fires s a t) (own : x ∈ t.host.advert) :
    x ∈ s.host.advert ∨ x.begunAfter = t.stops := by
  cases fired with
  | begin dev =>
      cases own
      exact .inr rfl
  | testFlag host =>
      refine .inl ?_
      rw [host]
      dsimp only at own
      split at own
      · exact own
      · cases own
  | testClient client host =>
      refine .inl ?_
      rw [host]
      cases client
      · cases own
      · exact own
  | append | drop => cases own
  | _ => exact .inl own

end Step

/-! ## Runs under the condition -/

/-- What is under way is of the time after the last stop. -/
structure Current (s : State) : Prop where
  underWay : ∀ x ∈ s.underWay, s.stops ≤ x.begunAfter
  noStale : NoStale s

theorem current_init : Current system.init := by
  have pending : system.init.pending.list = [] := FixedArray.list_cleared _
  refine ⟨?_, nofun⟩
  rw [State.underWay, pending]
  exact nofun

theorem current_fires {s t : State} {a : Action} (current : Current s) (fired : Fires s a t)
    (inSession : InSession s a) : Current t := by
  refine ⟨fun x mem => ?_, ?_⟩
  · rcases stops_fires fired with same | ⟨⟨task, rfl⟩, -, rest⟩
    · rw [same]
      rcases mem_underWay fired mem with old | ⟨rfl, room, own⟩
      · exact current.underWay x old
      · exact inSession room x own
    · have nothing : s.underWay = [] := inSession
      rw [rest, nothing] at mem
      cases mem
  · rcases handed_fires fired with same | ⟨ctx, flush, next⟩
    · rw [NoStale, same]
      exact current.noStale
    · rw [NoStale, next]
      intro h mem x own
      rcases List.mem_append.mp mem with old | new
      · exact current.noStale h old x own
      · obtain rfl := List.mem_singleton.mp new
        refine current.underWay x (List.mem_append_left _ ?_)
        rw [flush]
        exact own

theorem current_reachable {s : State} (path : system.ReachableWhen InSession s) : Current s :=
  ReachableFrom.invariant (fun _ _ held guard inSession => current_fires held (fires guard) inSession)
    path current_init

/-! ## Runs against it -/

/-- No advert is of the time after the present one. -/
structure Aged (s : State) : Prop where
  underWay : ∀ x ∈ s.underWay, x.begunAfter ≤ s.stops
  host : ∀ x ∈ s.host.advert, x.begunAfter ≤ s.stops

theorem aged_init : Aged system.init := by
  have pending : system.init.pending.list = [] := FixedArray.list_cleared _
  refine ⟨?_, nofun⟩
  rw [State.underWay, pending]
  exact nofun

theorem aged_fires {s t : State} {a : Action} (aged : Aged s) (fired : Fires s a t) : Aged t := by
  have later : s.stops ≤ t.stops := by
    rcases stops_fires fired with same | ⟨-, next, -⟩ <;> omega
  refine ⟨fun x mem => ?_, fun x own => ?_⟩
  · rcases mem_underWay fired mem with old | ⟨-, -, own⟩
    · exact (aged.underWay x old).trans later
    · exact (aged.host x own).trans later
  · rcases advert_fires fired own with old | new
    · exact (aged.host x old).trans later
    · exact new.le

/-- A run from here sends something stale. -/
def CanLeak (s : State) : Prop := ∃ t, system.ReachableFrom always s t ∧ ¬ NoStale t

theorem CanLeak.of_step {s : State} (a : Action) (guard : system.Guard s a)
    (next : CanLeak (system.effect s a)) : CanLeak s := by
  obtain ⟨t, path, leaked⟩ := next
  exact ⟨t, .head a guard trivial path, leaked⟩

section Leak

variable {s : State} {x : Advert}

theorem canLeak_sending {ctx : Batch} (flush : s.flush = .sending ctx) (mem : x ∈ ctx.list)
    (stale : x.begunAfter < s.stops) : CanLeak s := by
  have guard : system.Guard s .send := by simp [system, Guard, flush]
  refine ⟨_, .step .send .refl guard trivial, fun noStale => ?_⟩
  have handed : (⟨ctx, s.stops⟩ : Handover) ∈ (system.effect s .send).handed := by
    simp [system, effect, flush]
  exact Nat.not_le.mpr stale (noStale _ handed x mem)

theorem canLeak_drained {ctx : Batch} (flush : s.flush = .drained ctx) (mem : x ∈ ctx.list)
    (stale : x.begunAfter < s.stops) : CanLeak s := by
  refine .of_step (.flushClient true) (by simp [system, Guard, flush]) ?_
  have next : (system.effect s (.flushClient true)).flush = .sending ctx := by
    simp [system, effect, flush]
  have still : x.begunAfter < (system.effect s (.flushClient true)).stops := by
    simpa [system, effect, flush] using stale
  exact canLeak_sending next mem still

theorem canLeak_pending (flush : s.flush = .idle) (mem : x ∈ s.pending.list)
    (stale : x.begunAfter < s.stops) : CanLeak s := by
  have filled : s.pending.count ≠ 0 := fun empty =>
    List.ne_nil_of_mem mem (FixedArray.list_eq_nil_iff.mpr empty)
  refine .of_step .drain (by simp [system, Guard, flush]) ?_
  have next : (system.effect s .drain).flush = .drained (drainLocked s.pending) := by
    simp [system, effect, filled]
  have still : x.begunAfter < (system.effect s .drain).stops := by
    simpa [system, effect, filled] using stale
  exact canLeak_drained next (list_drainLocked s.pending ▸ mem) still

/-- Whatever the flush task is at, it ends and takes the batch. -/
theorem canLeak_underWay (mem : x ∈ s.underWay) (stale : x.begunAfter < s.stops) : CanLeak s := by
  unfold State.underWay at mem
  cases flush : s.flush with
  | idle =>
      rw [flush] at mem
      exact canLeak_pending flush mem stale
  | drained ctx =>
      rw [flush] at mem
      rcases List.mem_append.mp mem with held | waits
      · exact canLeak_drained flush held stale
      · refine .of_step (.flushClient false) (by simp [system, Guard, flush]) ?_
        apply canLeak_pending (x := x)
        · simp [system, effect, flush]
        · simpa [system, effect, flush] using waits
        · simpa [system, effect, flush] using stale
  | sending ctx =>
      rw [flush] at mem
      rcases List.mem_append.mp mem with held | waits
      · exact canLeak_sending flush held stale
      · refine .of_step .send (by simp [system, Guard, flush]) ?_
        apply canLeak_pending (x := x)
        · simp [system, effect, flush]
        · simpa [system, effect, flush] using waits
        · simpa [system, effect, flush] using stale

/-- A step against the condition leaves something stale under way. -/
theorem canLeak_of_not_inSession {a : Action} (aged : Aged s) (guard : Guard s a)
    (against : ¬ InSession s a) : CanLeak (effect s a) := by
  cases a with
  | append =>
      simp only [InSession, Classical.not_imp, not_forall] at against
      obtain ⟨room, advert, own, older⟩ := against
      cases host : s.host with
      | building advert' =>
          rw [host] at own
          cases own
          have next : effect s .append =
              { s with
                pending := s.pending.push advert
                host := .idle
                appended := s.appended ++ [advert] } := by
            simp [effect, host, room]
          apply canLeak_underWay (x := advert)
          · rw [next, State.underWay, FixedArray.list_push room]
            simp
          · rw [next]
            exact Nat.lt_of_not_le older
      | idle | begun | flagged => simp [Guard, host] at guard
  | stopReturn task =>
      obtain ⟨x, mem⟩ := List.exists_mem_of_ne_nil _ against
      exact canLeak_underWay (s := effect s (.stopReturn task)) mem
        (Nat.lt_succ_of_le (aged.underWay x mem))
  | _ => exact absurd trivial against

end Leak

/-- **No stale batch, as long as the condition is met**; and from any step against it, a run goes on
to send an advert of the time before the last stop. -/
theorem no_stale_batch {s : State} (path : system.ReachableWhen InSession s) :
    NoStale s ∧ ∀ a, Guard s a → ¬ InSession s a →
      ∃ t, system.ReachableFrom always (effect s a) t ∧ ¬ NoStale t := by
  have aged := invariant aged_init aged_fires path.reachable
  exact ⟨(current_reachable path).noStale, fun a guard against =>
    canLeak_of_not_inSession aged guard against⟩

/-- An advert is sent, and the session ends with nothing under way. -/
def tidySession : List Action :=
  [.startForwarding 0] ++ received ++ ([.drain, .flushClient true, .send, .stopStore 0, .stopClear 0,
    .stopReturn 0] : List Action)

theorem no_stale_batch_tidy :
    ∃ s, system.ReachableWhen InSession s ∧ s.sent.length = 1 ∧ s.stops = 1 ∧ NoStale s := by
  have path := system.reachable_finalFrom InSession system.init tidySession
  exact ⟨_, path, by decide +kernel, by decide +kernel, (no_stale_batch path).1⟩

/-- The advert is received in one session and appended in the next. -/
def lateAppend : List Action :=
  [.startForwarding 0, .begin someDevice, .testFlag, .testClient true, .stopStore 0, .stopClear 0,
    .stopReturn 0, .startForwarding 1, .append, .drain, .flushClient true, .send]

/-- The batch is taken out in one session and sent in the next. -/
def lateSend : List Action :=
  [.startForwarding 0] ++ received ++ ([.drain, .flushClient true, .stopStore 0, .stopClear 0,
    .stopReturn 0, .startForwarding 1, .send] : List Action)

theorem stale_batch :
    (∃ s, system.Reachable s ∧ s.forwarding = true ∧ s.stops = 1 ∧ ¬ NoStale s) ∧
      ¬ NoStale (system.final lateSend) := by
  refine ⟨⟨_, system.reachable_final lateAppend, ?_, ?_, ?_⟩, ?_⟩ <;> decide +kernel

end NimbleProxy.Backend.AdvertBatching
