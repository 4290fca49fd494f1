/-
# Backend.CallStages -- the stages a connect call passes through

`connection.h` promises that the callback of a `connect` that returned true is
invoked once with the result of the attempt, and once more if the link drops.
The invocation may come from three places (an attempt that could not be issued,
`onConnectFail`, or `onConnect` and later `onDisconnect`), each of which copies
the callback out of the slot under the lock and calls it after the lock is
released, while the slot may already belong to another call.

A call passes through stages. `Stage` lists them with what identifies each: the
state of the slot that holds the call, the invocation the host task or the
calling task still owes it, and what the callback has heard so far. `At` says
that a call is at a stage, `CallsInv` that every call is at some stage.

Most steps move no call (`CallsInv.congr`), a new call enters at `refused` or
`waiting` (`calls_refuse`, `calls_claim`), and every other step moves one call
and leaves the rest alone (`Moves`, `CallsInv.move`).
-/
import NimbleProxy.Backend.SlotInvariant

namespace NimbleProxy.Backend.Connection

open NimbleProxy.Theory

set_option autoImplicit false

/-! ## Views of the state -/

/-- The `connect` call a task is in, once it has claimed a slot. -/
def TaskPc.call? : TaskPc → Option CallId
  | .claimed _ f => some f.call
  | .released _ f _ => some f.call
  | _ => none

/-- The callback a task still has to invoke for an unissued attempt. -/
def TaskPc.owed? : TaskPc → Option (Frame × Option ConnectCallback)
  | .released _ f cb => some (f, cb)
  | _ => none

/-- The frame of a `connect` whose attempt could not be issued. -/
def TaskPc.unissued? : TaskPc → Option Frame
  | .claimed .unissued f => some f
  | _ => none

/-- The callback the host task still has to invoke. -/
def HostPc.owed? : HostPc → Option (Option ConnectCallback × UInt64 × ConnectionResult)
  | .callback cb address r => some (cb, address, r)
  | _ => none

/-- The call of a link whose attempt has ended, and how it ended. -/
def Link.ended? : Link → Option (CallId × Bool)
  | .failed k => some (k, false)
  | .up k _ _ => some (k, true)
  | _ => none

/-- What the callback of call `k` has heard: address and `connected`, in order. -/
def State.answers (s : State) (k : CallId) : List (UInt64 × Bool) :=
  (s.history.trace.filter fun v => decide (v.cb = k)).map fun v => (v.address, v.result.connected)

/-- Call `k` has a slot that waits for its outcome, or one that has a link. -/
def InSlot (s : State) (k : CallId) (live : Bool) : Prop :=
  ∃ i, (s.slots i).cb = some k ∧ (s.slots i).state.live? = some live

def HostOwes (s : State) (k : CallId) (connected : Bool) : Prop :=
  ∃ address r, s.host.owed? = some (some k, address, r) ∧ r.connected = connected

def TaskOwes (s : State) (k : CallId) : Prop :=
  ∃ t f, (s.tasks t).owed? = some (f, some k)

/-! ## Stages -/

inductive Stage
  /-- `connect` returned false -/
  | refused
  /-- a slot is claimed; the attempt has no outcome the code has seen -/
  | waiting
  /-- `onConnect` has marked the slot and owes the invocation -/
  | announcing
  | linked
  /-- `client->connect` returned false, the slot is released, the task owes the invocation -/
  | unissued
  /-- `onConnectFail` has released the slot and owes the invocation -/
  | failing
  /-- `onDisconnect` has released the slot and owes the invocation -/
  | dropping
  | failed
  | dropped
  deriving DecidableEq

namespace Stage

def slot : Stage → Option Bool
  | .waiting => some false
  | .announcing | .linked => some true
  | _ => none

def host : Stage → Option Bool
  | .announcing => some true
  | .failing | .dropping => some false
  | _ => none

def task : Stage → Bool
  | .unissued => true
  | _ => false

def outcome : Stage → Option Bool
  | .announcing | .linked | .dropping | .dropped => some true
  | .unissued | .failing | .failed => some false
  | .refused | .waiting => none

def answers (address : UInt64) : Stage → List (UInt64 × Bool)
  | .refused | .waiting | .announcing | .unissued | .failing => []
  | .linked | .dropping => [(address, true)]
  | .failed => [(address, false)]
  | .dropped => [(address, true), (address, false)]

theorem eq_waiting {stage : Stage} (h : stage.slot = some false) : stage = .waiting := by
  cases stage <;> simp [slot] at h ⊢

theorem eq_unissued {stage : Stage} (h : stage.task = true) : stage = .unissued := by
  cases stage <;> simp [task] at h ⊢

theorem eq_announcing {stage : Stage} (h : stage.host = some true) : stage = .announcing := by
  cases stage <;> simp [host] at h ⊢

theorem failing_or_dropping {stage : Stage} (h : stage.host = some false) :
    stage = .failing ∨ stage = .dropping := by
  cases stage <;> simp [host] at h ⊢

theorem eq_linked {stage : Stage} (h : stage.slot = some true) (quiet : stage.host = none) :
    stage = .linked := by
  cases stage <;> simp [slot, host] at h quiet ⊢

end Stage

/-- Call `k` is at `stage`. -/
structure At (s : State) (k : CallId) (stage : Stage) : Prop where
  slot : ∀ live, InSlot s k live ↔ stage.slot = some live
  host : ∀ connected, HostOwes s k connected ↔ stage.host = some connected
  task : TaskOwes s k ↔ stage.task = true
  outcome : ∀ b, stage.outcome = some b → (s.history.calls k).outcome = some b
  returned : (s.history.calls k).returned = some false ↔ stage = .refused
  allotted : stage ≠ .refused → ∃ i, (s.history.calls k).slot = some i
  answers : s.answers k = stage.answers (s.history.calls k).address

structure CallsInv (s : State) : Prop where
  slotOf : ∀ i k, (s.slots i).cb = some k → k < s.history.nextCall ∧
    (s.history.calls k).slot = some i ∧ (s.history.calls k).address = (s.slots i).address
  latest : ∀ i k k', (s.history.calls k).slot = some i → (s.slots i).cb = some k' → k ≤ k'
  running : ∀ t k, (s.tasks t).call? = some k →
    k < s.history.nextCall ∧ (s.history.calls k).returned = none
  owed : ∀ t f cb, (s.tasks t).owed? = some (f, cb) →
    cb = some f.call ∧ (s.history.calls f.call).address = f.address
  owedOnce : ∀ t t' f f' cb cb', (s.tasks t).owed? = some (f, cb) →
    (s.tasks t').owed? = some (f', cb') → f.call = f'.call → t = t'
  unissued : ∀ t f, (s.tasks t).unissued? = some f →
    (s.history.calls f.call).outcome = some false
  hostOwed : ∀ cb address r, s.host.owed? = some (cb, address, r) →
    ∃ k, cb = some k ∧ k < s.history.nextCall ∧ address = (s.history.calls k).address
  ended : ∀ c k b, (s.links c).ended? = some (k, b) → (s.history.calls k).outcome = some b
  stages : ∀ k, k < s.history.nextCall → ∃ stage, At s k stage
  unborn : ∀ k, s.history.nextCall ≤ k → s.answers k = [] ∧ (s.history.calls k).slot = none

theorem callsInv_init : CallsInv ({} : State) := by
  constructor <;> simp [TaskPc.call?, TaskPc.owed?, TaskPc.unissued?, HostPc.owed?, Link.ended?,
    State.answers]

/-! ## Bookkeeping of the history -/

section

variable {s s' : State}

@[simp] theorem record_trace (h : History) (k : CallId) (change : CallRecord → CallRecord) :
    (h.record k change).trace = h.trace := rfl

@[simp] theorem record_nextCall (h : History) (k : CallId) (change : CallRecord → CallRecord) :
    (h.record k change).nextCall = h.nextCall := rfl

@[simp] theorem record_self (h : History) (k : CallId) (change : CallRecord → CallRecord) :
    (h.record k change).calls k = change (h.calls k) := by
  simp [History.record]

theorem record_of_ne (h : History) {k k' : CallId} (ne : k' ≠ k)
    (change : CallRecord → CallRecord) : (h.record k change).calls k' = h.calls k' := by
  simp [History.record, ne]

/-- A change of a call's record that leaves the fields the code fixes at the start. -/
theorem record_field {α : Type} (field : CallRecord → α) (h : History) (k k' : CallId)
    (change : CallRecord → CallRecord) (kept : ∀ r, field (change r) = field r) :
    field ((h.record k change).calls k') = field (h.calls k') := by
  by_cases here : k' = k
  · subst here
    rw [record_self, kept]
  · rw [record_of_ne h here]

@[simp] theorem invoke_nextCall (h : History) (origin : Origin) (cb : Option ConnectCallback)
    (address : UInt64) (r : ConnectionResult) :
    (h.invoke origin cb address r).nextCall = h.nextCall := by
  cases cb <;> rfl

@[simp] theorem invoke_calls (h : History) (origin : Origin) (cb : Option ConnectCallback)
    (address : UInt64) (r : ConnectionResult) :
    (h.invoke origin cb address r).calls = h.calls := by
  cases cb <;> rfl

theorem answers_append {v : Invocation} (trace : s'.history.trace = s.history.trace ++ [v])
    (k : CallId) :
    s'.answers k = s.answers k ++ if v.cb = k then [(v.address, v.result.connected)] else [] := by
  unfold State.answers
  rw [trace, List.filter_append, List.map_append]
  by_cases here : v.cb = k
  · simp [here]
  · simp [here]

/-! ## Calls a step does not touch -/

/-- The stage of a call whose slot, debts, record and answers a step leaves alone. -/
theorem At.frame {k : CallId} {stage : Stage} (at_ : At s k stage)
    (slots : ∀ live, InSlot s' k live ↔ InSlot s k live)
    (host : ∀ b, HostOwes s' k b ↔ HostOwes s k b) (task : TaskOwes s' k ↔ TaskOwes s k)
    (record : s'.history.calls k = s.history.calls k) (answers : s'.answers k = s.answers k) :
    At s' k stage := by
  refine ⟨?_, ?_, ?_, ?_, ?_, ?_, ?_⟩
  · intro live; rw [slots, at_.slot]
  · intro b; rw [host, at_.host]
  · rw [task, at_.task]
  · rw [record]; exact at_.outcome
  · rw [record]; exact at_.returned
  · rw [record]; exact at_.allotted
  · rw [answers, record]; exact at_.answers

theorem inSlot_congr (cb : ∀ i, (s'.slots i).cb = (s.slots i).cb)
    (live : ∀ i, (s'.slots i).state.live? = (s.slots i).state.live?) (k : CallId) (b : Bool) :
    InSlot s' k b ↔ InSlot s k b := by
  simp only [InSlot, cb, live]

/-- A slot that changes hands between calls other than `k`. -/
theorem inSlot_update {i : SlotIdx} {slot : Slot} {k : CallId}
    (slots : s'.slots = Function.update s.slots i slot) (before : (s.slots i).cb ≠ some k)
    (after : slot.cb ≠ some k) (b : Bool) : InSlot s' k b ↔ InSlot s k b := by
  unfold InSlot
  rw [slots]
  constructor
  · rintro ⟨j, cb, live⟩
    have notI : j ≠ i := by
      rintro rfl
      rw [Function.update_self] at cb
      exact after cb
    rw [Function.update_of_ne notI] at cb live
    exact ⟨j, cb, live⟩
  · rintro ⟨j, cb, live⟩
    have notI : j ≠ i := by
      rintro rfl
      exact before cb
    exact ⟨j, by rw [Function.update_of_ne notI]; exact ⟨cb, live⟩⟩

theorem taskOwes_congr (owed : ∀ t, (s'.tasks t).owed? = (s.tasks t).owed?) (k : CallId) :
    TaskOwes s' k ↔ TaskOwes s k := by
  simp only [TaskOwes, owed]

theorem hostOwes_congr (owed : s'.host.owed? = s.host.owed?) (k : CallId) (b : Bool) :
    HostOwes s' k b ↔ HostOwes s k b := by
  simp only [HostOwes, owed]

/-- A view of the tasks that one task's step leaves alone. -/
theorem view_update {α : Type} (view : TaskPc → α) {t : TaskId} {pc : TaskPc}
    (same : view pc = view (s.tasks t)) (u : TaskId) :
    view ((Function.update s.tasks t pc) u) = view (s.tasks u) := by
  by_cases here : u = t
  · subst here
    rw [Function.update_self, same]
  · rw [Function.update_of_ne here]

/-- A step that moves no callback, no debt and no outcome. -/
theorem CallsInv.congr (calls : CallsInv s) (cb : ∀ i, (s'.slots i).cb = (s.slots i).cb)
    (address : ∀ i, (s'.slots i).address = (s.slots i).address)
    (live : ∀ i, (s'.slots i).state.live? = (s.slots i).state.live?)
    (history : s'.history = s.history) (running : ∀ t, (s'.tasks t).call? = (s.tasks t).call?)
    (owed : ∀ t, (s'.tasks t).owed? = (s.tasks t).owed?)
    (unissued : ∀ t, (s'.tasks t).unissued? = (s.tasks t).unissued?)
    (host : s'.host.owed? = s.host.owed?) (ended : ∀ c, (s'.links c).ended? = (s.links c).ended?) :
    CallsInv s' := by
  obtain ⟨slotOf, latest, run, owed', owedOnce, unissued', hostOwed, ended', stages, unborn⟩ := calls
  have answers : ∀ k, s'.answers k = s.answers k := by
    intro k; simp only [State.answers, history]
  refine ⟨?_, ?_, ?_, ?_, ?_, ?_, ?_, ?_, ?_, ?_⟩
  · simpa only [cb, address, history] using slotOf
  · simpa only [cb, history] using latest
  · simpa only [running, history] using run
  · simpa only [owed, history] using owed'
  · simpa only [owed] using owedOnce
  · simpa only [unissued, history] using unissued'
  · simpa only [host, history] using hostOwed
  · simpa only [ended, history] using ended'
  · intro k born
    rw [history] at born
    obtain ⟨stage, at_⟩ := stages k born
    exact ⟨stage, at_.frame (inSlot_congr cb live k) (hostOwes_congr host k)
      (taskOwes_congr owed k) (by rw [history]) (answers k)⟩
  · simpa only [answers, history] using unborn

/-! ## A new call -/

theorem TaskPc.call?_of_owed? {pc : TaskPc} {f : Frame} {cb : Option ConnectCallback}
    (owed : pc.owed? = some (f, cb)) : pc.call? = some f.call := by
  cases pc <;> simp_all [TaskPc.owed?, TaskPc.call?]

theorem TaskPc.call?_of_frame? {pc : TaskPc} {f : Frame} (held : pc.frame? = some f) :
    pc.call? = some f.call := by
  cases pc <;> simp_all [TaskPc.frame?, TaskPc.call?]

theorem TaskPc.frame?_of_unissued? {pc : TaskPc} {f : Frame} (pending : pc.unissued? = some f) :
    pc.frame? = some f := by
  unfold TaskPc.unissued? at pending
  split at pending
  · exact pending
  · cases pending

theorem Link.call?_of_ended? {link : Link} {k : CallId} {b : Bool}
    (ended : link.ended? = some (k, b)) : link.call? = some k := by
  cases link <;> simp_all [Link.ended?, Link.call?]

theorem Link.ne_idle_of_call? {link : Link} {k : CallId} (of : link.call? = some k) :
    link ≠ .idle := by
  rintro rfl
  cases of

/-- The slot of a link holds the link's call. -/
theorem Inv.slot_of_call (inv : Inv s) {c : ClientPtr} {k : CallId}
    (of : (s.links c).call? = some k) :
    ∃ i, (s.slots i).client = some c ∧ (s.slots i).cb = some k := by
  obtain ⟨i, client, fits⟩ := inv.linked c (Link.ne_idle_of_call? of)
  exact ⟨i, client, fits.cb of⟩

/-- Nothing in the state refers to a call that has not been made. -/
theorem CallsInv.unborn_nowhere (calls : CallsInv s) {k : CallId} (late : s.history.nextCall ≤ k) :
    (∀ live, ¬ InSlot s k live) ∧ (∀ b, ¬ HostOwes s k b) ∧ ¬ TaskOwes s k := by
  refine ⟨?_, ?_, ?_⟩
  · rintro live ⟨i, cb, -⟩
    have := (calls.slotOf i k cb).1
    lia
  · rintro b ⟨address, r, owed, -⟩
    obtain ⟨k', same, born, -⟩ := calls.hostOwed _ _ _ owed
    have := Option.some.inj same
    lia
  · rintro ⟨t, f, owed⟩
    have same := Option.some.inj (calls.owed t f _ owed).1
    have := (calls.running t _ (TaskPc.call?_of_owed? owed)).1
    lia

theorem CallsInv.old_record (r : CallRecord) {k : CallId} (born : k < s.history.nextCall) :
    Function.update s.history.calls s.history.nextCall r k = s.history.calls k :=
  Function.update_of_ne (by lia) _ _

/-- What a new call with record `r` leaves alone: the debts, the links and the slots and
tasks of the other calls. -/
structure NewCall (s s' : State) (r : CallRecord) : Prop where
  nextCall : s'.history.nextCall = s.history.nextCall + 1
  records : s'.history.calls = Function.update s.history.calls s.history.nextCall r
  trace : s'.history.trace = s.history.trace
  host : s'.host = s.host
  links : s'.links = s.links
  owed : ∀ t, (s'.tasks t).owed? = (s.tasks t).owed?
  unissued : ∀ t, (s'.tasks t).unissued? = (s.tasks t).unissued?
  slotOf : ∀ i k, (s'.slots i).cb = some k → (s.slots i).cb = some k ∧ s'.slots i = s.slots i ∨
    k = s.history.nextCall ∧ r.slot = some i ∧ r.address = (s'.slots i).address
  latest : ∀ i k, r.slot = some i → (s'.slots i).cb = some k → k = s.history.nextCall
  running : ∀ t k, (s'.tasks t).call? = some k →
    (s.tasks t).call? = some k ∨ k = s.history.nextCall ∧ r.returned = none
  inSlot : ∀ k live, k < s.history.nextCall → (InSlot s' k live ↔ InSlot s k live)

theorem NewCall.answers {r : CallRecord} (new : NewCall s s' r) (k : CallId) :
    s'.answers k = s.answers k := by
  simp only [State.answers, new.trace]

/-- The invariant survives a new call that is at some stage itself. -/
theorem CallsInv.newCall (inv : Inv s) (calls : CallsInv s) {r : CallRecord} (new : NewCall s s' r)
    (stage : Stage) (at_ : At s' s.history.nextCall stage) : CallsInv s' := by
  have old : ∀ k, k < s.history.nextCall → s'.history.calls k = s.history.calls k := by
    intro k born
    rw [new.records]
    exact CallsInv.old_record r born
  have later : ∀ k, k < s.history.nextCall → k < s'.history.nextCall := by
    intro k born
    rw [new.nextCall]
    exact Nat.lt_succ_of_lt born
  have self : s'.history.calls s.history.nextCall = r := by
    rw [new.records, Function.update_self]
  have made : s.history.nextCall < s'.history.nextCall := by
    rw [new.nextCall]
    exact Nat.lt_succ_self _
  refine ⟨?_, ?_, ?_, ?_, ?_, ?_, ?_, ?_, ?_, ?_⟩
  · intro i k cb
    rcases new.slotOf i k cb with ⟨before, same⟩ | ⟨rfl, slot, address⟩
    · obtain ⟨born, facts⟩ := calls.slotOf i k before
      rw [old k born, same]
      exact ⟨later k born, facts⟩
    · rw [self]
      exact ⟨made, slot, address⟩
  · intro i k k' slot cb
    by_cases isNew : k = s.history.nextCall
    · subst isNew
      rw [self] at slot
      exact Nat.le_of_eq (new.latest i k' slot cb).symm
    · rw [new.records, Function.update_of_ne isNew] at slot
      rcases new.slotOf i k' cb with ⟨before, -⟩ | ⟨rfl, -⟩
      · exact calls.latest i k k' slot before
      · by_contra late
        rw [(calls.unborn k (by lia)).2] at slot
        cases slot
  · intro t k call
    rcases new.running t k call with before | ⟨rfl, returned⟩
    · obtain ⟨born, facts⟩ := calls.running t k before
      rw [old k born]
      exact ⟨later k born, facts⟩
    · rw [self]
      exact ⟨made, returned⟩
  · intro t f cb debt
    rw [new.owed] at debt
    rw [old _ (calls.running t _ (TaskPc.call?_of_owed? debt)).1]
    exact calls.owed t f cb debt
  · intro t t' f f' cb cb' debt debt'
    rw [new.owed] at debt debt'
    exact calls.owedOnce t t' f f' cb cb' debt debt'
  · intro t f pending
    rw [new.unissued] at pending
    have held := TaskPc.call?_of_frame? (TaskPc.frame?_of_unissued? pending)
    rw [old _ (calls.running t _ held).1]
    exact calls.unissued t f pending
  · intro cb a v debt
    rw [new.host] at debt
    obtain ⟨k, same, born, facts⟩ := calls.hostOwed cb a v debt
    exact ⟨k, same, later k born, by rw [old k born]; exact facts⟩
  · intro c k b isEnded
    rw [new.links] at isEnded
    obtain ⟨i, -, cb⟩ := inv.slot_of_call (Link.call?_of_ended? isEnded)
    rw [old k (calls.slotOf i k cb).1]
    exact calls.ended c k b isEnded
  · intro k born
    by_cases isNew : k = s.history.nextCall
    · exact ⟨stage, isNew ▸ at_⟩
    · have earlier : k < s.history.nextCall := by
        rw [new.nextCall] at born
        lia
      obtain ⟨stageK, atK⟩ := calls.stages k earlier
      exact ⟨stageK, atK.frame (fun live => new.inSlot k live earlier)
        (hostOwes_congr (by rw [new.host]) k) (taskOwes_congr new.owed k) (old k earlier)
        (new.answers k)⟩
  · intro k late
    rw [new.nextCall] at late
    obtain ⟨silent, noSlot⟩ := calls.unborn k (by lia)
    refine ⟨(new.answers k).trans silent, ?_⟩
    rw [new.records, Function.update_of_ne (by lia)]
    exact noSlot

theorem calls_refuse (inv : Inv s) (calls : CallsInv s) (address : UInt64) (addressType : UInt8) :
    CallsInv (refuse s address addressType) := by
  have nowhere := calls.unborn_nowhere (Nat.le_refl s.history.nextCall)
  have silent := (calls.unborn _ (Nat.le_refl s.history.nextCall)).1
  have new : NewCall s (refuse s address addressType)
      { address, addressType, returned := some false } := by
    refine ⟨rfl, rfl, rfl, rfl, rfl, fun _ => rfl, fun _ => rfl, ?_, ?_, ?_, fun _ _ _ => Iff.rfl⟩
    · exact fun _ _ cb => .inl ⟨cb, rfl⟩
    · intro _ _ slot
      cases slot
    · exact fun _ _ => .inl
  refine calls.newCall inv new .refused ⟨?_, ?_, ?_, ?_, ?_, ?_, ?_⟩
  · exact fun live => ⟨fun h => absurd h (nowhere.1 live), fun h => by cases h⟩
  · exact fun b => ⟨fun h => absurd h (nowhere.2.1 b), fun h => by cases h⟩
  · exact ⟨fun h => absurd h nowhere.2.2, fun h => by cases h⟩
  · exact fun b h => by cases h
  · simp [refuse]
  · exact fun h => absurd rfl h
  · exact silent

theorem calls_claim (inv : Inv s) (calls : CallsInv s) {t : TaskId} {i : SlotIdx}
    (idle : s.tasks t = .idle) (free : (s.slots i).state = .free) (address : UInt64)
    (addressType : UInt8) : CallsInv (claim s t address addressType i) := by
  have nowhere := calls.unborn_nowhere (Nat.le_refl s.history.nextCall)
  have silent := (calls.unborn _ (Nat.le_refl s.history.nextCall)).1
  have empty := (inv.clean i free).2
  have newSlot : (claim s t address addressType i).slots i =
      { state := .connecting, address, addressType
        client := some ((s.slots i).client.getD s.nextClient), cb := some s.history.nextCall } := by
    simp [claim]
  have otherSlot : ∀ j, j ≠ i → (claim s t address addressType i).slots j = s.slots j := by
    intro j notI
    simp only [claim, Function.update_of_ne notI]
  have owedSame : ∀ u, ((claim s t address addressType i).tasks u).owed? = (s.tasks u).owed? :=
    view_update TaskPc.owed? (by rw [idle]; rfl)
  have new : NewCall s (claim s t address addressType i) { address, addressType, slot := some i } := by
    refine ⟨rfl, rfl, rfl, rfl, rfl, owedSame, view_update TaskPc.unissued? (by rw [idle]; rfl),
      ?_, ?_, ?_, ?_⟩
    · intro j k cb
      by_cases here : j = i
      · subst here
        rw [newSlot] at cb ⊢
        exact .inr ⟨(Option.some.inj cb).symm, rfl, rfl⟩
      · rw [otherSlot j here] at cb ⊢
        exact .inl ⟨cb, rfl⟩
    · intro j k slot cb
      rw [← Option.some.inj slot, newSlot] at cb
      exact (Option.some.inj cb).symm
    · intro u k call
      by_cases here : u = t
      · subst here
        simp only [claim, Function.update_self, TaskPc.call?, Option.some.injEq] at call
        exact .inr ⟨call.symm, rfl⟩
      · simp only [claim, Function.update_of_ne here] at call
        exact .inl call
    · intro k live earlier
      refine inSlot_update (i := i) rfl ?_ ?_ live
      · rw [empty]; simp
      · intro isNew
        have := Option.some.inj isNew
        lia
  refine calls.newCall inv new .waiting ⟨?_, ?_, ?_, ?_, ?_, ?_, ?_⟩
  · intro live
    constructor
    · rintro ⟨j, cb, isLive⟩
      by_cases here : j = i
      · subst here
        rw [newSlot] at isLive
        exact isLive
      · rw [otherSlot j here] at cb isLive
        exact absurd ⟨j, cb, isLive⟩ (nowhere.1 live)
    · intro isLive
      exact ⟨i, by rw [newSlot], by rw [newSlot]; exact isLive⟩
  · exact fun b => ⟨fun h => absurd h (nowhere.2.1 b), fun h => by cases h⟩
  · rw [taskOwes_congr owedSame]
    exact ⟨fun h => absurd h nowhere.2.2, fun h => by cases h⟩
  · exact fun b h => by cases h
  · simp [claim]
  · exact fun _ => ⟨i, by simp [claim]⟩
  · exact silent

/-! ## A call that moves on -/

theorem taskOwes_update {t : TaskId} {pc : TaskPc} {k : CallId}
    (tasks : s'.tasks = Function.update s.tasks t pc)
    (before : ∀ f, (s.tasks t).owed? ≠ some (f, some k)) (after : ∀ f, pc.owed? ≠ some (f, some k)) :
    TaskOwes s' k ↔ TaskOwes s k := by
  unfold TaskOwes
  rw [tasks]
  constructor
  · rintro ⟨u, f, debt⟩
    have notT : u ≠ t := by
      rintro rfl
      rw [Function.update_self] at debt
      exact after f debt
    rw [Function.update_of_ne notT] at debt
    exact ⟨u, f, debt⟩
  · rintro ⟨u, f, debt⟩
    have notT : u ≠ t := by
      rintro rfl
      exact before f debt
    exact ⟨u, f, by rw [Function.update_of_ne notT]; exact debt⟩

/-- The host task owes nobody but `k`, before or after. -/
theorem hostOwes_other {k j : CallId} (other : j ≠ k)
    (before : ∀ cb address r, s.host.owed? = some (cb, address, r) → cb = some k)
    (after : ∀ cb address r, s'.host.owed? = some (cb, address, r) → cb = some k) (b : Bool) :
    HostOwes s' j b ↔ HostOwes s j b := by
  constructor
  · rintro ⟨address, r, debt, -⟩
    exact absurd (Option.some.inj (after _ _ _ debt)) other
  · rintro ⟨address, r, debt, -⟩
    exact absurd (Option.some.inj (before _ _ _ debt)) other

theorem hostOwes_none (rest : s.host.owed? = none) (k : CallId) (b : Bool) : ¬ HostOwes s k b := by
  rintro ⟨address, r, debt, -⟩
  rw [rest] at debt
  cases debt

theorem owed?_callback {cb cb' : Option ConnectCallback} {a a' : UInt64} {r r' : ConnectionResult} :
    (HostPc.callback cb a r).owed? = some (cb', a', r') ↔ cb = cb' ∧ a = a' ∧ r = r' := by
  simp [HostPc.owed?]

/-- A call whose slot waits for an outcome. -/
theorem CallsInv.waiting (calls : CallsInv s) {i : SlotIdx} {k : CallId}
    (cb : (s.slots i).cb = some k) (connecting : (s.slots i).state = .connecting) :
    At s k .waiting := by
  obtain ⟨stage, at_⟩ := calls.stages k (calls.slotOf i k cb).1
  have isWaiting := Stage.eq_waiting ((at_.slot false).mp ⟨i, cb, by rw [connecting]; rfl⟩)
  exact isWaiting ▸ at_

/-- A call whose attempt could not be issued and whose slot is released. -/
theorem CallsInv.at_unissued (calls : CallsInv s) {t : TaskId} {f : Frame}
    {cb : Option ConnectCallback} (debt : (s.tasks t).owed? = some (f, cb)) :
    cb = some f.call ∧ At s f.call .unissued := by
  obtain ⟨own, -⟩ := calls.owed t f cb debt
  obtain ⟨stage, at_⟩ := calls.stages f.call (calls.running t _ (TaskPc.call?_of_owed? debt)).1
  have isUnissued := Stage.eq_unissued (at_.task.mp ⟨t, f, own ▸ debt⟩)
  exact ⟨own, isUnissued ▸ at_⟩

theorem TaskPc.call?_cases {pc : TaskPc} {k : CallId} (inCall : pc.call? = some k) :
    (∃ f, pc.frame? = some f ∧ f.call = k) ∨ ∃ f cb, pc.owed? = some (f, cb) ∧ f.call = k := by
  cases pc with
  | idle | disconnectCall c => cases inCall
  | claimed pos f => exact .inl ⟨f, rfl, Option.some.inj inCall⟩
  | released pos f cb => exact .inr ⟨f, cb, rfl, Option.some.inj inCall⟩

/-- The slot of a call is where its attempt, its link and its claim are. -/
theorem CallsInv.sameSlot (calls : CallsInv s) {i j : SlotIdx} {k : CallId}
    (cbI : (s.slots i).cb = some k) (cbJ : (s.slots j).cb = some k) : i = j :=
  Option.some.inj ((calls.slotOf i k cbI).2.1.symm.trans (calls.slotOf j k cbJ).2.1)

theorem CallsInv.client_of_call (calls : CallsInv s) (inv : Inv s) {c : ClientPtr} {i : SlotIdx}
    {k : CallId} (of : (s.links c).call? = some k) (cb : (s.slots i).cb = some k) :
    (s.slots i).client = some c := by
  obtain ⟨j, client, cbJ⟩ := inv.slot_of_call of
  rw [← calls.sameSlot cbJ cb]
  exact client

/-- A call that still holds its claim has no attempt and no link. -/
theorem CallsInv.claimed_no_link (calls : CallsInv s) (inv : Inv s) {t : TaskId} {f : Frame}
    (held : (s.tasks t).frame? = some f) (c : ClientPtr) : (s.links c).call? ≠ some f.call := by
  intro of
  have claim := inv.claims t f held
  have client := calls.client_of_call inv of claim.cb
  have quiet := claim.quiet
  rw [Option.some.inj (claim.client.symm.trans client)] at quiet
  rw [quiet] at of
  cases of

/-- A call runs in one task. -/
theorem CallsInv.taskOnce (inv : Inv s) (calls : CallsInv s) {t u : TaskId} {k : CallId}
    (inT : (s.tasks t).call? = some k) (inU : (s.tasks u).call? = some k) : t = u := by
  -- a claimed slot makes the call wait, an owed invocation makes it unissued
  have apart : ∀ v w f g cb, (s.tasks v).frame? = some f → (s.tasks w).owed? = some (g, cb) →
      f.call ≠ g.call := by
    intro v w f g cb held debt same
    have claim := inv.claims v f held
    have waits := calls.waiting claim.cb claim.state
    have owes := (calls.at_unissued debt).2
    have := (waits.slot false).mpr rfl
    rw [same] at this
    exact absurd ((owes.slot false).mp this) (by decide)
  rcases TaskPc.call?_cases inT with ⟨f, held, isK⟩ | ⟨f, cb, debt, isK⟩
  · rcases TaskPc.call?_cases inU with ⟨g, heldU, isKU⟩ | ⟨g, cb, debtU, isKU⟩
    · have cbF := (inv.claims t f held).cb
      have cbG := (inv.claims u g heldU).cb
      rw [isK] at cbF
      rw [isKU] at cbG
      exact inv.claimOnce t u f g held heldU (calls.sameSlot cbF cbG)
    · exact absurd (isK.trans isKU.symm) (apart t u f g cb held debtU)
  · rcases TaskPc.call?_cases inU with ⟨g, heldU, isKU⟩ | ⟨g, cb', debtU, isKU⟩
    · exact absurd (isKU.trans isK.symm) (apart u t g f cb heldU debt)
    · exact calls.owedOnce t u f g cb cb' debt debtU (isK.trans isKU.symm)

/-- A step in which only call `k` moves on: no callback enters a slot, and the
other calls keep slot, debts, record and answers. -/
structure Moves (s s' : State) (k : CallId) : Prop where
  born : k < s.history.nextCall
  nextCall : s'.history.nextCall = s.history.nextCall
  fixed : ∀ j, (s'.history.calls j).slot = (s.history.calls j).slot ∧
    (s'.history.calls j).address = (s.history.calls j).address
  records : ∀ j, j ≠ k → s'.history.calls j = s.history.calls j
  cbs : ∀ i j, (s'.slots i).cb = some j → (s.slots i).cb = some j ∧
    (s'.slots i).address = (s.slots i).address
  inSlot : ∀ j, j ≠ k → ∀ live, InSlot s' j live ↔ InSlot s j live
  hostOwes : ∀ j, j ≠ k → ∀ b, HostOwes s' j b ↔ HostOwes s j b
  taskOwes : ∀ j, j ≠ k → (TaskOwes s' j ↔ TaskOwes s j)
  answers : ∀ j, j ≠ k → s'.answers j = s.answers j

theorem CallsInv.move {k : CallId} (calls : CallsInv s) (moves : Moves s s' k)
    (running : ∀ t j, (s'.tasks t).call? = some j →
      (s.tasks t).call? = some j ∧ (s'.history.calls j).returned = (s.history.calls j).returned)
    (owed : ∀ t f cb, (s'.tasks t).owed? = some (f, cb) →
      cb = some f.call ∧ (s.history.calls f.call).address = f.address)
    (owedOnce : ∀ t t' f f' cb cb', (s'.tasks t).owed? = some (f, cb) →
      (s'.tasks t').owed? = some (f', cb') → f.call = f'.call → t = t')
    (unissued : ∀ t f, (s'.tasks t).unissued? = some f →
      (s'.history.calls f.call).outcome = some false)
    (hostOwed : ∀ cb address r, s'.host.owed? = some (cb, address, r) →
      ∃ j, cb = some j ∧ j < s.history.nextCall ∧ address = (s.history.calls j).address)
    (ended : ∀ c j b, (s'.links c).ended? = some (j, b) →
      (s'.history.calls j).outcome = some b)
    (stage : ∃ stage, At s' k stage) : CallsInv s' := by
  have slotSame := fun j => (moves.fixed j).1
  have addressSame := fun j => (moves.fixed j).2
  refine ⟨?_, ?_, ?_, ?_, owedOnce, unissued, ?_, ended, ?_, ?_⟩
  · intro i j cb
    obtain ⟨was, sameAddress⟩ := moves.cbs i j cb
    rw [moves.nextCall, slotSame, addressSame, sameAddress]
    exact calls.slotOf i j was
  · intro i j j' slot cb
    rw [slotSame] at slot
    exact calls.latest i j j' slot (moves.cbs i j' cb).1
  · intro t j inCall
    obtain ⟨was, same⟩ := running t j inCall
    rw [moves.nextCall, same]
    exact calls.running t j was
  · intro t f cb debt
    rw [addressSame]
    exact owed t f cb debt
  · intro cb address r debt
    obtain ⟨j, own, born, addr⟩ := hostOwed cb address r debt
    exact ⟨j, own, by rw [moves.nextCall]; exact born, by rw [addressSame]; exact addr⟩
  · intro j born
    rw [moves.nextCall] at born
    by_cases here : j = k
    · exact here ▸ stage
    · obtain ⟨stageJ, at_⟩ := calls.stages j born
      exact ⟨stageJ, at_.frame (moves.inSlot j here) (moves.hostOwes j here)
        (moves.taskOwes j here) (moves.records j here) (moves.answers j here)⟩
  · intro j late
    rw [moves.nextCall] at late
    have notK : j ≠ k := by
      have := moves.born
      lia
    rw [moves.answers j notK, slotSame]
    exact calls.unborn j late

end

end NimbleProxy.Backend.Connection
