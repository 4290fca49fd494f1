/-
# Backend.DisconnectAnswer -- which disconnect requests are answered

`connection.h` promises that `disconnect` fires the callback with
`connected = false` once the disconnect completes, or immediately if the slot is
already free. The code acts on a Connected slot only: for an absent address it
does nothing at all, and a Connecting slot is left to its attempt.

`DisconnectAnswers` states the promise over every continuation of the call.
`Ending` says that the attempt or the link of a call is already on its way out;
a run keeps it (`ending_step`) and a call that is ending can no longer be
forgotten. `disconnect_answers_iff` says exactly when the promise is kept.
-/
import NimbleProxy.Backend.CallbackDiscipline

namespace NimbleProxy.Backend.Connection

open NimbleProxy.Theory ActionSystem

set_option autoImplicit false

/-- A task is about to call `client->disconnect` on `c`. -/
def HangingUp (s : State) (c : ClientPtr) : Prop :=
  ∃ t, s.tasks t = .disconnectCall c

/-- The link of call `k` is up and announced, and nobody is about to end it. -/
def Forgotten (s : State) (k : CallId) : Prop :=
  ∃ c, s.links c = .up k true false ∧ ¬ HangingUp s c

/-- What the header promises of `disconnect(address)`, called by task `t` in state `s`:
without a slot for the address, exactly one invocation with `connected = false` at
once; otherwise, in every continuation, the request is not forgotten and the
call that holds the slot hears `connected = false` at most once, and exactly
once when its attempt and link have ended. -/
def DisconnectAnswers (s : State) (t : TaskId) (address : UInt64) : Prop :=
  match s.slots.findByAddrLocked address with
  | none => ∃ v, (effect s (.disconnectLocked t address)).history.trace = s.history.trace ++ [v] ∧
      v.address = address ∧ v.result.connected = false
  | some i => ∀ k, (s.slots i).cb = some k →
      ∀ s', system.ReachableFrom always (effect s (.disconnectLocked t address)) s' →
        ¬ Forgotten s' k ∧ (s'.answers k).count (address, false) ≤ 1 ∧
          (Ended s' k → (s'.answers k).count (address, false) = 1)

/-- The attempt or link of call `k` is on its way out: it cannot come up any
more, or it is up and lost, or a task is about to hang it up. -/
structure Ending (s : State) (k : CallId) : Prop where
  noAttempt : ∀ c, s.links c ≠ .attempting k
  hungUp : ∀ c announced, s.links c = .up k announced false → HangingUp s c
  unissued : ∀ t pos f, s.tasks t = .claimed pos f → f.call = k → pos = .unissued

/-! ## What one step does to tasks and links -/

section

variable {s : State} {a : Action}

theorem HangingUp.update {c : ClientPtr} (hanging : HangingUp s c) {t : TaskId} (pc : TaskPc)
    (other : s.tasks t ≠ .disconnectCall c) :
    ∃ u, Function.update s.tasks t pc u = .disconnectCall c := by
  obtain ⟨u, isU⟩ := hanging
  have notT : u ≠ t := by
    rintro rfl
    exact other isU
  exact ⟨u, by rw [Function.update_of_ne notT]; exact isU⟩

/-- The action enters `connect` or `disconnect`. -/
def Action.enters : Action → Bool
  | .connectLocked .. | .disconnectLocked .. => true
  | _ => false

/-- What a task that moves may do: it leaves its idle state only by entering a
function, a hang-up ends only by its call, and a claim is new or moves on from an
earlier position. -/
structure TaskMoves (s : State) (a : Action) (t : TaskId) (pc : TaskPc) : Prop where
  tasks : (effect s a).tasks = Function.update s.tasks t pc
  entered : s.tasks t = .idle → a.enters = true
  hangUp : ∀ c, s.tasks t = .disconnectCall c → a = .disconnectCall t c
  claimed : ∀ pos f, pc = .claimed pos f → f.call = s.history.nextCall ∨
    ∃ pos', s.tasks t = .claimed pos' f ∧ pos' ≠ .unissued

/-- A step of the host task or of a link moves no task; any other moves one. -/
theorem tasks_step (guard : Guard s a) :
    (effect s a).tasks = s.tasks ∨ ∃ t pc, TaskMoves s a t pc := by
  cases a with
  | connectLocked t address addressType =>
      have idle : s.tasks t = .idle := guard
      simp only [effect, connectLocked]
      cases found : s.slots.findByAddrLocked address with
      | some i => exact .inl rfl
      | none =>
          cases alloc : s.slots.allocLocked with
          | none => exact .inl rfl
          | some i =>
              refine .inr ⟨t, .claimed .notify ⟨s.history.nextCall, address, addressType, i,
                (s.slots i).client.getD s.nextClient⟩, ?_, fun _ => rfl, ?_, ?_⟩
              · simp only [effect, connectLocked, found, alloc, claim]
              · intro c isC
                rw [idle] at isC
                cases isC
              · intro pos f isF
                cases isF
                exact .inl rfl
  | connectNotify t f | connectStopScan t f =>
      have pc : s.tasks t = _ := guard
      refine .inr ⟨t, _, rfl, by rw [pc]; simp, ?_, ?_⟩
      · intro c isC
        rw [pc] at isC
        cases isC
      · intro pos g isG
        cases isG
        exact .inr ⟨_, pc, by decide⟩
  | releaseNotify t f cb | connectCallback t f cb | connectUnissued t f =>
      have pc : s.tasks t = _ := guard
      refine .inr ⟨t, _, rfl, by rw [pc]; simp, ?_, ?_⟩
      · intro c isC
        rw [pc] at isC
        cases isC
      · intro pos g isG
        cases isG
  | connectIssue t f issued =>
      have pc : s.tasks t = _ := guard
      have noHangUp : ∀ c, s.tasks t = .disconnectCall c →
          Action.connectIssue t f issued = .disconnectCall t c := by
        intro c isC
        rw [pc] at isC
        cases isC
      cases issued with
      | true => exact .inr ⟨t, _, rfl, by rw [pc]; simp, noHangUp, fun pos g isG => by cases isG⟩
      | false =>
          refine .inr ⟨t, _, rfl, by rw [pc]; simp, noHangUp, ?_⟩
          intro pos g isG
          cases isG
          exact .inr ⟨_, pc, by decide⟩
  | disconnectLocked t address =>
      have idle : s.tasks t = .idle := guard
      simp only [effect, disconnectLocked]
      cases found : s.slots.findByAddrLocked address with
      | none => exact .inl rfl
      | some i =>
          by_cases isConnected : (s.slots i).state = .connected
          · refine .inr ⟨t, (effect s (.disconnectLocked t address)).tasks t, ?_, fun _ => rfl, ?_, ?_⟩
            · funext u
              by_cases here : u = t
              · subst here
                rw [Function.update_self]
              · simp only [effect, disconnectLocked, found, isConnected, if_true,
                  Function.update_of_ne here]
            · intro c isC
              rw [idle] at isC
              cases isC
            · intro pos f isF
              simp only [effect, disconnectLocked, found, isConnected, if_true,
                Function.update_self] at isF
              split at isF <;> cases isF
          · simp only [isConnected, if_false]
            exact .inl trivial
  | disconnectCall t c =>
      have pc : s.tasks t = _ := guard
      refine .inr ⟨t, .idle, rfl, by rw [pc]; simp, ?_, fun pos f isF => by cases isF⟩
      intro d isD
      rw [pc] at isD
      cases isD
      rfl
  | established c k | attemptFailed c k | linkLost c k announced | hostCallback cb address r
  | hostNotify | hostResume => exact .inl rfl
  | onConnect c k lost mtu =>
      simp only [effect, onConnect]
      split
      · split <;> exact .inl rfl
      · exact .inl rfl
  | onConnectFail c k reason =>
      simp only [effect, onConnectFail]
      split <;> exact .inl rfl
  | onDisconnect c k reason =>
      simp only [effect, onDisconnect]
      split <;> exact .inl rfl

theorem HangingUp.step {c : ClientPtr} (hanging : HangingUp s c) (guard : Guard s a)
    (other : ∀ t, a ≠ .disconnectCall t c) : HangingUp (effect s a) c := by
  rcases tasks_step guard with same | ⟨t, pc, moves⟩
  · unfold HangingUp
    rw [same]
    exact hanging
  · unfold HangingUp
    rw [moves.tasks]
    exact hanging.update pc fun isC => other t (moves.hangUp c isC)

theorem claimed_step (guard : Guard s a) {t : TaskId} {pos : ClaimedAt} {f : Frame}
    (held : (effect s a).tasks t = .claimed pos f) :
    f.call = s.history.nextCall ∨ s.tasks t = .claimed pos f ∨
      ∃ pos', s.tasks t = .claimed pos' f ∧ pos' ≠ .unissued := by
  rcases tasks_step guard with same | ⟨u, pc, moves⟩
  · rw [same] at held
    exact .inr (.inl held)
  · rw [moves.tasks, Function.update_apply] at held
    split at held
    · rename_i here
      subst here
      rcases moves.claimed pos f held with new | earlier
      · exact .inl new
      · exact .inr (.inr earlier)
    · exact .inr (.inl held)

theorem onConnect_links (s : State) (c : ClientPtr) (k : CallId) (lost : Bool) (mtu : UInt16) :
    (onConnect s c k lost mtu).links = Function.update s.links c (.up k true lost) := by
  unfold onConnect
  split
  · split <;> rfl
  · rfl

theorem onConnect_tasks (s : State) (c : ClientPtr) (k : CallId) (lost : Bool) (mtu : UInt16) :
    (onConnect s c k lost mtu).tasks = s.tasks := by
  unfold onConnect
  split
  · split <;> rfl
  · rfl

theorem onConnectFail_links (s : State) (c : ClientPtr) (reason : Int32) :
    (onConnectFail s c reason).links = Function.update s.links c .idle := by
  unfold onConnectFail
  split <;> rfl

theorem onDisconnect_links (s : State) (c : ClientPtr) (reason : Int32) :
    (onDisconnect s c reason).links = Function.update s.links c .idle := by
  unfold onDisconnect
  split <;> rfl

/-- How the link of `c` may change in one step. -/
inductive LinkStep (s : State) (c : ClientPtr) : Link → Prop
  | same : LinkStep s c (s.links c)
  | ended : LinkStep s c .idle
  | failed (k : CallId) : LinkStep s c (.failed k)
  | lost (k : CallId) (announced : Bool) : LinkStep s c (.up k announced true)
  | issued (t : TaskId) (f : Frame) : s.tasks t = .claimed .issue f →
      LinkStep s c (.attempting f.call)
  | established (k : CallId) : s.links c = .attempting k → LinkStep s c (.up k false false)
  | announced (k : CallId) : s.links c = .up k false false → LinkStep s c (.up k true false)

theorem LinkStep.update {c d : ClientPtr} {link : Link} (moved : LinkStep s d link) :
    LinkStep s c (Function.update s.links d link c) := by
  rw [Function.update_apply]
  split
  · rename_i here
    rw [here]
    exact moved
  · exact .same

theorem LinkStep.hangUp (s : State) (c : ClientPtr) : LinkStep s c (s.links c).hangUp := by
  cases link : s.links c with
  | idle | attempting k | failed k =>
      simp only [Link.hangUp]
      rw [← link]
      exact .same
  | up k announced lost => exact .lost k announced

theorem links_step (guard : Guard s a) (c : ClientPtr) : LinkStep s c ((effect s a).links c) := by
  cases a with
  | connectLocked t address addressType =>
      simp only [effect, connectLocked]
      split
      · exact .same
      · split <;> exact .same
  | connectNotify t f | connectStopScan t f | releaseNotify t f cb | connectCallback t f cb
  | connectUnissued t f | hostCallback cb address r | hostNotify | hostResume => exact .same
  | connectIssue t f issued =>
      cases issued with
      | true => exact LinkStep.update (.issued t f guard)
      | false => exact .same
  | disconnectLocked t address =>
      simp only [effect, disconnectLocked]
      split
      · exact .same
      · split <;> exact .same
  | disconnectCall t d => exact (LinkStep.hangUp s d).update
  | established d k => exact LinkStep.update (.established k guard)
  | attemptFailed d k => exact LinkStep.update (.failed k)
  | linkLost d k announced => exact LinkStep.update (.lost k announced)
  | onConnect d k lost mtu =>
      rw [effect, onConnect_links]
      cases lost with
      | true => exact LinkStep.update (.lost k true)
      | false => exact LinkStep.update (.announced k guard.2)
  | onConnectFail d k reason =>
      rw [effect, onConnectFail_links]
      exact LinkStep.ended.update
  | onDisconnect d k reason =>
      rw [effect, onDisconnect_links]
      exact LinkStep.ended.update

/-- A link that is up and not lost after a step was not hung up by it. -/
theorem not_hungUp {c : ClientPtr} {k : CallId} {announced : Bool}
    (link : (effect s a).links c = .up k announced false) (t : TaskId) :
    a ≠ .disconnectCall t c := by
  rintro rfl
  simp only [effect, Function.update_self] at link
  cases was : s.links c <;> simp [was, Link.hangUp] at link

/-! ## A call that is ending stays so -/

theorem ending_step {k : CallId} (ending : Ending s k) (made : k < s.history.nextCall)
    (guard : Guard s a) : Ending (effect s a) k := by
  refine ⟨?_, ?_, ?_⟩
  · intro c link
    have step := links_step guard c
    rw [link] at step
    generalize isLink : Link.attempting k = after at step
    cases step with
    | same => exact ending.noAttempt c isLink.symm
    | issued t f held =>
        cases isLink
        exact absurd (ending.unissued t _ f held rfl) (by decide)
    | ended | failed k' | lost k' b | established k' was | announced k' was => cases isLink
  · intro c announced link
    have step := links_step guard c
    have before : HangingUp s c := by
      rw [link] at step
      generalize isLink : Link.up k announced false = after at step
      cases step with
      | same => exact ending.hungUp c announced isLink.symm
      | established k' was =>
          cases isLink
          exact absurd was (ending.noAttempt c)
      | announced k' was =>
          cases isLink
          exact ending.hungUp c false was
      | ended | failed k' | lost k' b | issued t f held => cases isLink
    exact before.step guard (not_hungUp link)
  · intro t pos f held isK
    rcases claimed_step guard held with new | same | ⟨pos', was, early⟩
    · exact absurd (isK.symm.trans new) (Nat.ne_of_lt made)
    · exact ending.unissued t pos f same isK
    · exact absurd (ending.unissued t pos' f was isK) early

theorem Ending.not_forgotten {k : CallId} (ending : Ending s k) : ¬ Forgotten s k := by
  rintro ⟨c, link, nobody⟩
  exact nobody (ending.hungUp c true link)

/-- A call that was made stays made, with its address. -/
theorem made_step {k : CallId} (made : k < s.history.nextCall) :
    k < (effect s a).history.nextCall ∧
      ((effect s a).history.calls k).address = (s.history.calls k).address := by
  cases a with
  | connectLocked t address addressType =>
      have old : ∀ r, Function.update s.history.calls s.history.nextCall r k = s.history.calls k :=
        fun r => CallsInv.old_record r made
      simp only [effect, connectLocked]
      split
      · exact ⟨Nat.lt_succ_of_lt made, congrArg CallRecord.address (old _)⟩
      · split
        · exact ⟨Nat.lt_succ_of_lt made, congrArg CallRecord.address (old _)⟩
        · exact ⟨Nat.lt_succ_of_lt made, congrArg CallRecord.address (old _)⟩
  | connectIssue t f issued =>
      cases issued with
      | true => exact ⟨made, record_field CallRecord.address _ _ _
          (fun r => { r with returned := some true }) fun _ => rfl⟩
      | false => exact ⟨made, record_field CallRecord.address _ _ _
          (fun r => { r with outcome := some false }) fun _ => rfl⟩
  | connectCallback t f cb =>
      refine ⟨by simpa [effect, connectCallback] using made, ?_⟩
      exact (record_field CallRecord.address _ _ _ (fun r => { r with returned := some true })
        fun _ => rfl).trans (by rw [invoke_calls])
  | established c k' => exact ⟨made, record_field CallRecord.address _ _ _
      (fun r => { r with outcome := some true }) fun _ => rfl⟩
  | attemptFailed c k' => exact ⟨made, record_field CallRecord.address _ _ _
      (fun r => { r with outcome := some false }) fun _ => rfl⟩
  | disconnectLocked t address =>
      simp only [effect, disconnectLocked]
      split
      · exact ⟨made, rfl⟩
      · split <;> exact ⟨made, rfl⟩
  | onConnect c k' lost mtu =>
      simp only [effect, onConnect]
      split
      · split <;> exact ⟨made, rfl⟩
      · exact ⟨made, rfl⟩
  | onConnectFail c k' reason =>
      simp only [effect, onConnectFail]
      split <;> exact ⟨made, rfl⟩
  | onDisconnect c k' reason =>
      simp only [effect, onDisconnect]
      split <;> exact ⟨made, rfl⟩
  | hostCallback cb address r => simpa [effect] using made
  | connectNotify t f | connectStopScan t f | releaseNotify t f cb | connectUnissued t f
  | disconnectCall t c | linkLost c k' announced | hostNotify | hostResume => exact ⟨made, rfl⟩

theorem made_run {s' : State} {k : CallId} (made : k < s.history.nextCall)
    (path : system.ReachableFrom always s s') :
    k < s'.history.nextCall ∧ (s'.history.calls k).address = (s.history.calls k).address := by
  refine path.invariant (P := fun u => k < u.history.nextCall ∧
    (u.history.calls k).address = (s.history.calls k).address) ?_ ⟨made, rfl⟩
  rintro u a ⟨madeU, same⟩ _ _
  obtain ⟨madeNext, sameNext⟩ := made_step (a := a) madeU
  exact ⟨madeNext, sameNext.trans same⟩

theorem ending_run {s' : State} {k : CallId} (ending : Ending s k) (made : k < s.history.nextCall)
    (path : system.ReachableFrom always s s') : Ending s' k := by
  refine (path.invariant (P := fun s => Ending s k ∧ k < s.history.nextCall) ?_ ⟨ending, made⟩).1
  intro s a held guard _
  exact ⟨ending_step held.1 held.2 guard, (made_step (a := a) held.2).1⟩

/-! ## What one step does to a slot -/

/-- What a slot may look like after a step. -/
inductive SlotStep (s : State) (a : Action) (i : SlotIdx) : Slot → Prop
  | same : SlotStep s a i (s.slots i)
  | claimed {slot : Slot} (t : TaskId) (address : UInt64) (addressType : UInt8) :
      a = .connectLocked t address addressType → (s.slots i).state = .free →
      slot.state = .connecting → SlotStep s a i slot
  | unissued (t : TaskId) (f : Frame) : a = .connectUnissued t f → f.slot = i →
      SlotStep s a i (s.slots i).reset
  | marked (t : TaskId) (address : UInt64) : a = .disconnectLocked t address →
      s.slots.findByAddrLocked address = some i → (s.slots i).state = .connected →
      SlotStep s a i { s.slots i with state := .disconnecting }
  | up (c : ClientPtr) (k : CallId) (lost : Bool) (mtu : UInt16) : a = .onConnect c k lost mtu →
      (s.slots i).state = .connecting → SlotStep s a i { s.slots i with state := .connected }
  | ended (c : ClientPtr) (k : CallId) (reason : Int32) :
      a = .onConnectFail c k reason ∨ a = .onDisconnect c k reason →
      SlotStep s a i (s.slots i).reset

/-- One slot is overwritten. -/
theorem SlotStep.update {j : SlotIdx} {slot : Slot} (i : SlotIdx)
    (written : SlotStep s a j slot) : SlotStep s a i (Function.update s.slots j slot i) := by
  rw [Function.update_apply]
  split
  · rename_i here
    rw [here]
    exact written
  · exact .same

theorem slots_step (s : State) (a : Action) (i : SlotIdx) : SlotStep s a i ((effect s a).slots i) := by
  cases a with
  | connectLocked t address addressType =>
      simp only [effect, connectLocked]
      split
      · exact .same
      · split
        · exact .same
        · rename_i alloc
          have unused := SlotTable.allocLocked_some alloc
          exact SlotStep.update i (.claimed t address addressType rfl unused rfl)
  | connectNotify t f | connectStopScan t f | releaseNotify t f cb | connectCallback t f cb
  | disconnectCall t c | established c k | attemptFailed c k | linkLost c k announced
  | hostCallback cb address r | hostNotify | hostResume => exact .same
  | connectIssue t f issued => cases issued <;> exact .same
  | connectUnissued t f => exact SlotStep.update i (.unissued t f rfl rfl)
  | disconnectLocked t address =>
      simp only [effect, disconnectLocked]
      split
      · exact .same
      · rename_i found
        split
        · rename_i isConnected
          exact SlotStep.update i (.marked t address rfl found isConnected)
        · exact .same
  | onConnect c k lost mtu =>
      simp only [effect, onConnect]
      split
      · split
        · rename_i isConnecting
          exact SlotStep.update i (.up c k lost mtu rfl isConnecting)
        · exact .same
      · exact .same
  | onConnectFail c k reason =>
      simp only [effect, onConnectFail]
      split
      · exact SlotStep.update i (.ended c k reason (.inl rfl))
      · exact .same
  | onDisconnect c k reason =>
      simp only [effect, onDisconnect]
      split
      · exact SlotStep.update i (.ended c k reason (.inr rfl))
      · exact .same

/-! ## A Disconnecting slot is being hung up -/

/-- The link of a Disconnecting slot is lost, or a task is about to hang it up. -/
def Hung (s : State) : Prop :=
  ∀ i c k, (s.slots i).client = some c → (s.slots i).state = .disconnecting →
    s.links c = .up k true false → HangingUp s c

/-- A slot that is Disconnecting after a step was so before, with the same client,
or this step marked it and is about to hang up. -/
theorem disconnecting_step {i : SlotIdx} {c : ClientPtr}
    (client : ((effect s a).slots i).client = some c)
    (marked : ((effect s a).slots i).state = .disconnecting) :
    ((s.slots i).client = some c ∧ (s.slots i).state = .disconnecting) ∨
      HangingUp (effect s a) c := by
  have step := slots_step s a i
  generalize (effect s a).slots i = after at step client marked
  cases step with
  | same => exact .inl ⟨client, marked⟩
  | claimed t address addressType isClaim free connecting =>
      rw [connecting] at marked
      cases marked
  | unissued | up | ended => cases marked
  | marked t address isMark found isConnected =>
      subst isMark
      refine .inr ⟨t, ?_⟩
      simp only at client
      simp only [effect, disconnectLocked, found, isConnected, if_true, Function.update_self, client]

theorem hung_step (inv : Inv s) (hung : Hung s) (guard : Guard s a) : Hung (effect s a) := by
  intro i c k client marked link
  rcases disconnecting_step client marked with ⟨clientBefore, markedBefore⟩ | hanging
  · have step := links_step guard c
    have before : HangingUp s c := by
      rw [link] at step
      generalize isLink : Link.up k true false = after at step
      cases step with
      | same => exact hung i c k clientBefore markedBefore isLink.symm
      | announced k' was =>
          -- an unannounced link is in a Connecting slot
          obtain ⟨j, clientJ, fits⟩ := inv.linked c (by rw [was]; simp)
          rw [was, inv.ownClient j i c clientJ clientBefore] at fits
          rw [fits.1] at markedBefore
          cases markedBefore
      | established k' was | ended | failed k' | lost k' b | issued t f held => cases isLink
    exact before.step guard (not_hungUp link)
  · exact hanging

end

theorem hung_reachable {s : State} (path : system.Reachable s) : Hung s :=
  path.invariant_with (fun _ => inv_reachable) (fun _ _ _ client => by cases client)
    fun _ _ inv hung guard => hung_step inv hung guard

/-! ## Calls that are ending at the request -/

section

variable {s : State}

/-- A call whose slot has a link is ending as soon as somebody hangs that link up. -/
theorem ending_of_live (inv : Inv s) (calls : CallsInv s) {i : SlotIdx} {k : CallId}
    {tasks : TaskId → TaskPc} {slots : SlotTable} (cb : (s.slots i).cb = some k)
    (live : (s.slots i).state ≠ .connecting)
    (claims : ∀ t pos f, tasks t = .claimed pos f → s.tasks t = .claimed pos f)
    (hangs : ∀ c, (s.slots i).client = some c → s.links c = .up k true false →
      ∃ t, tasks t = .disconnectCall c) : Ending { s with slots, tasks } k := by
  refine ⟨?_, ?_, ?_⟩
  · intro c link
    have was : s.links c = .attempting k := link
    obtain ⟨j, -, fits⟩ := inv.linked c (by rw [was]; simp)
    rw [was] at fits
    exact live (calls.sameSlot cb fits.2 ▸ fits.1)
  · intro c announced link
    have was : s.links c = .up k announced false := link
    obtain ⟨j, client, fits⟩ := inv.linked c (by rw [was]; simp)
    rw [was] at fits
    cases announced with
    | false => exact absurd (calls.sameSlot cb fits.2 ▸ fits.1) live
    | true => exact hangs c (calls.sameSlot cb fits.2 ▸ client) was
  · intro t pos f held isK
    have claim := inv.claims t f (by rw [claims t pos f held]; rfl)
    have cbF := claim.cb
    rw [isK] at cbF
    exact absurd (calls.sameSlot cb cbF ▸ claim.state) live

/-- After `disconnect` found the slot of `k` Connected or Disconnecting, `k` is ending. -/
theorem ending_disconnectLocked (inv : Inv s) (calls : CallsInv s) (hung : Hung s) {t : TaskId}
    {i : SlotIdx} {k : CallId} {address : UInt64}
    (found : s.slots.findByAddrLocked address = some i) (cb : (s.slots i).cb = some k)
    (live : (s.slots i).state = .connected ∨ (s.slots i).state = .disconnecting) :
    Ending (effect s (.disconnectLocked t address)) k := by
  rcases live with isConnected | marked
  · simp only [effect, disconnectLocked, found, isConnected, if_true]
    refine ending_of_live inv calls cb (by rw [isConnected]; decide) ?_ ?_
    · intro u pos f held
      rw [Function.update_apply] at held
      split at held
      · split at held <;> cases held
      · exact held
    · intro c client _
      exact ⟨t, by rw [Function.update_self, client]⟩
  · simp only [effect, disconnectLocked, found, marked, reduceCtorEq, if_false]
    exact ending_of_live inv calls cb (by rw [marked]; decide) (fun _ _ _ held => held)
      fun c client link => hung i c k client marked link

/-! ## A call that is not ending may be forgotten -/

/-- The host task finishes its callback; slots, tasks and links stay. -/
theorem host_rests (s : State) : ∃ s', system.ReachableFrom always s s' ∧ s'.host = .idle ∧
    s'.tasks = s.tasks ∧ s'.links = s.links := by
  have fromResume : ∀ s : State, s.host = .resume → ∃ s', system.ReachableFrom always s s' ∧
      s'.host = .idle ∧ s'.tasks = s.tasks ∧ s'.links = s.links := by
    intro s pc
    exact ⟨_, .head Action.hostResume pc trivial .refl, rfl, rfl, rfl⟩
  have fromNotify : ∀ s : State, s.host = .notify → ∃ s', system.ReachableFrom always s s' ∧
      s'.host = .idle ∧ s'.tasks = s.tasks ∧ s'.links = s.links := by
    intro s pc
    obtain ⟨s', path, facts⟩ := fromResume (effect s .hostNotify) rfl
    exact ⟨s', .head Action.hostNotify pc trivial path, facts⟩
  cases pc : s.host with
  | idle => exact ⟨s, .refl, pc, rfl, rfl⟩
  | resume => exact fromResume s pc
  | notify => exact fromNotify s pc
  | callback cb address r =>
      obtain ⟨s', path, facts⟩ := fromNotify (effect s (.hostCallback cb address r)) rfl
      exact ⟨s', .head (Action.hostCallback cb address r) pc trivial path, facts⟩

/-- Only finitely many tasks have ever started anything. -/
theorem tasks_bounded (path : system.Reachable s) : ∃ n, ∀ t, n ≤ t → s.tasks t = .idle := by
  refine path.invariant (P := fun s => ∃ n, ∀ t, n ≤ t → s.tasks t = .idle) ⟨0, fun _ _ => rfl⟩ ?_
  rintro s a ⟨n, idle⟩ guard
  rcases tasks_step guard with same | ⟨t, pc, moves⟩
  · exact ⟨n, fun u le => by rw [show (system.effect s a).tasks = s.tasks from same]; exact idle u le⟩
  · refine ⟨n + t + 1, ?_⟩
    intro u le
    rw [show (system.effect s a).tasks = _ from moves.tasks, Function.update_of_ne (by lia)]
    exact idle u (by lia)

/-- Late hang-ups on a client that has no link do nothing; let them all happen. -/
theorem hangUps_done {c : ClientPtr} (n : Nat) (s : State) (rest : (s.links c).hangUp = s.links c)
    (bound : ∀ t, n ≤ t → s.tasks t ≠ .disconnectCall c) :
    ∃ s', system.ReachableFrom always s s' ∧ s'.links = s.links ∧ ¬ HangingUp s' c := by
  induction n generalizing s with
  | zero =>
      refine ⟨s, .refl, rfl, ?_⟩
      rintro ⟨t, pc⟩
      exact bound t (Nat.zero_le t) pc
  | succ n ih =>
      by_cases pc : s.tasks n = .disconnectCall c
      · have links : (effect s (.disconnectCall n c)).links = s.links := by
          simp only [effect, rest, Function.update_eq_self]
        obtain ⟨s', path, sameLinks, nobody⟩ := ih (effect s (.disconnectCall n c))
          (by rw [links]; exact rest) (by
            intro t le
            simp only [effect, Function.update_apply]
            split
            · simp
            · rename_i notN
              exact bound t (by lia))
        exact ⟨s', .head (Action.disconnectCall n c) pc trivial path, sameLinks.trans links, nobody⟩
      · apply ih s rest
        intro t le
        rcases Nat.lt_or_ge n t with lt | ge
        · exact bound t lt
        · rw [Nat.le_antisymm ge le]
          exact pc

theorem forgets_of_up {c : ClientPtr} {k : CallId} (link : s.links c = .up k false false)
    (nobody : ¬ HangingUp s c) : ∃ s', system.ReachableFrom always s s' ∧ Forgotten s' k := by
  obtain ⟨rested, path, idle, tasks, links⟩ := host_rests s
  have guard : Guard rested (.onConnect c k false 0) := ⟨idle, by rw [links]; exact link⟩
  refine ⟨_, path.trans (.head (Action.onConnect c k false 0) guard trivial .refl), c, ?_, ?_⟩
  · exact (congrFun (onConnect_links rested c k false 0) c).trans (Function.update_self ..)
  · rintro ⟨t, pc⟩
    have same : (system.effect rested (.onConnect c k false 0)).tasks = s.tasks :=
      (onConnect_tasks rested c k false 0).trans tasks
    rw [same] at pc
    exact nobody ⟨t, pc⟩

theorem forgets_of_attempting (path : system.Reachable s) {c : ClientPtr} {k : CallId}
    (link : s.links c = .attempting k) :
    ∃ s', system.ReachableFrom always s s' ∧ Forgotten s' k := by
  obtain ⟨n, idle⟩ := tasks_bounded path
  obtain ⟨quiet, toQuiet, links, nobody⟩ := hangUps_done (c := c) n s (by rw [link]; rfl) (by
    intro t le
    rw [idle t le]
    simp)
  have guard : Guard quiet (.established c k) := by
    show quiet.links c = .attempting k
    rw [links]
    exact link
  obtain ⟨s', toEnd, forgotten⟩ :=
    forgets_of_up (s := effect quiet (.established c k)) (c := c) (k := k)
      (Function.update_self ..) nobody
  exact ⟨s', toQuiet.trans (.head (Action.established c k) guard trivial toEnd), forgotten⟩

theorem forgets_of_claimed (path : system.Reachable s) {t : TaskId} {pos : ClaimedAt} {f : Frame}
    (held : s.tasks t = .claimed pos f) (early : pos ≠ .unissued) :
    ∃ s', system.ReachableFrom always s s' ∧ Forgotten s' f.call := by
  have fromIssue : ∀ s, system.Reachable s → s.tasks t = .claimed .issue f →
      ∃ s', system.ReachableFrom always s s' ∧ Forgotten s' f.call := by
    intro s path pc
    obtain ⟨s', toEnd, forgotten⟩ := forgets_of_attempting
      (path.step (.connectIssue t f true) pc) (c := f.client) (k := f.call) (Function.update_self ..)
    exact ⟨s', .head (Action.connectIssue t f true) pc trivial toEnd, forgotten⟩
  have fromStopScan : ∀ s, system.Reachable s → s.tasks t = .claimed .stopScan f →
      ∃ s', system.ReachableFrom always s s' ∧ Forgotten s' f.call := by
    intro s path pc
    obtain ⟨s', toEnd, forgotten⟩ :=
      fromIssue _ (path.step (.connectStopScan t f) pc) (Function.update_self ..)
    exact ⟨s', .head (Action.connectStopScan t f) pc trivial toEnd, forgotten⟩
  cases pos with
  | notify =>
      obtain ⟨s', toEnd, forgotten⟩ :=
        fromStopScan _ (path.step (.connectNotify t f) held) (Function.update_self ..)
      exact ⟨s', .head (Action.connectNotify t f) held trivial toEnd, forgotten⟩
  | stopScan => exact fromStopScan s path held
  | issue => exact fromIssue s path held
  | unissued => exact absurd rfl early

/-- A call in a Connecting slot that is not ending can come up and stay up. -/
theorem forgets_of_not_ending (path : system.Reachable s) {i : SlotIdx} {k : CallId}
    (cb : (s.slots i).cb = some k) (connecting : (s.slots i).state = .connecting)
    (open_ : ¬ Ending s k) : ∃ s', system.ReachableFrom always s s' ∧ Forgotten s' k := by
  by_contra never
  refine open_ ⟨?_, ?_, ?_⟩
  · intro c link
    exact never (forgets_of_attempting path link)
  · intro c announced link
    by_contra nobody
    have inv := inv_reachable path
    obtain ⟨j, -, fits⟩ := inv.linked c (by rw [link]; simp)
    rw [link] at fits
    cases announced with
    | false => exact never (forgets_of_up link nobody)
    | true =>
        have same := (calls_reachable path).sameSlot cb fits.2
        subst same
        rcases fits.1 with st | st <;> (rw [connecting] at st; cases st)
  · intro t pos f held isK
    by_contra early
    obtain ⟨s', toEnd, forgotten⟩ := forgets_of_claimed path held early
    exact never ⟨s', toEnd, isK ▸ forgotten⟩

/-- A finished call has heard `connected = false` exactly once, any other at most once. -/
theorem answers_count_false (path : system.Reachable s) {k : CallId} (made : k < s.history.nextCall) :
    (s.answers k).count ((s.history.calls k).address, false) ≤ 1 ∧
      (Ended s k → (s.answers k).count ((s.history.calls k).address, false) = 1) := by
  have inv := inv_reachable path
  have calls := calls_reachable path
  obtain ⟨stage, at_⟩ := calls.stages k made
  constructor
  · rw [at_.answers]
    cases stage <;> simp [Stage.answers]
  · intro ended
    obtain ⟨b, -, heard⟩ := at_.answers_of_ended inv calls ended
    rw [heard]
    cases b <;> simp

end

/-! ## When the promise is kept -/

/-- The address has a slot that is Connected or Disconnecting, or one whose
attempt or link is already on its way out. -/
def Answerable (s : State) (address : UInt64) : Prop :=
  ∃ i k, (s.slots i).state ≠ .free ∧ (s.slots i).address = address ∧ (s.slots i).cb = some k ∧
    ((s.slots i).state = .connected ∨ (s.slots i).state = .disconnecting ∨ Ending s k)

theorem disconnectLocked_connecting {s : State} {i : SlotIdx} {address : UInt64}
    (found : s.slots.findByAddrLocked address = some i) (other : (s.slots i).state ≠ .connected)
    (t : TaskId) : effect s (.disconnectLocked t address) = s := by
  simp only [effect, disconnectLocked, found, other, if_false]

/-- Once `disconnect` has looked at such a slot, the call that holds it is ending. -/
theorem ending_of_answerable {s : State} (path : system.Reachable s) {i : SlotIdx} {k : CallId}
    {address : UInt64} (found : s.slots.findByAddrLocked address = some i)
    (cb : (s.slots i).cb = some k)
    (why : (s.slots i).state = .connected ∨ (s.slots i).state = .disconnecting ∨ Ending s k)
    (t : TaskId) : Ending (effect s (.disconnectLocked t address)) k := by
  have marks := ending_disconnectLocked (t := t) (inv_reachable path) (calls_reachable path)
    (hung_reachable path) found cb
  by_cases isConnected : (s.slots i).state = .connected
  · exact marks (.inl isConnected)
  · rcases why with isConnected' | marked | ending
    · exact absurd isConnected' isConnected
    · exact marks (.inr marked)
    · rw [disconnectLocked_connecting found isConnected t]
      exact ending

/-- **A disconnect is answered exactly when its slot has a link or is ending.** -/
theorem disconnect_answers_iff (s : State) (path : system.Reachable s) (t : TaskId)
    (idle : s.tasks t = .idle) (address : UInt64) :
    DisconnectAnswers s t address ↔ Answerable s address := by
  have inv := inv_reachable path
  have calls := calls_reachable path
  unfold DisconnectAnswers
  cases found : s.slots.findByAddrLocked address with
  | none =>
      constructor
      · -- without a slot the call changes nothing, so nothing is invoked
        rintro ⟨v, trace, -⟩
        have silent : (effect s (.disconnectLocked t address)).history.trace = s.history.trace := by
          simp only [effect, disconnectLocked, found]
        rw [silent] at trace
        have lengths := congrArg List.length trace
        simp at lengths
      · rintro ⟨i, k, used, isAddress, -⟩
        exact absurd isAddress (SlotTable.findByAddrLocked_none.mp found i used)
  | some i =>
      obtain ⟨used, isAddress⟩ := SlotTable.findByAddrLocked_some found
      obtain ⟨k, cb, -⟩ := inv.holder used
      obtain ⟨made, -, callAddress⟩ := calls.slotOf i k cb
      constructor
      · intro answers
        refine ⟨i, k, used, isAddress, cb, ?_⟩
        cases st : (s.slots i).state with
        | free => exact absurd st used
        | connected => exact .inl rfl
        | disconnecting => exact .inr (.inl rfl)
        | connecting =>
            refine .inr (.inr ?_)
            by_contra notEnding
            obtain ⟨s', toEnd, forgotten⟩ := forgets_of_not_ending path cb st notEnding
            have ignored := disconnectLocked_connecting found (by rw [st]; decide) t
            exact (answers k cb s' (by rw [ignored]; exact toEnd)).1 forgotten
      · rintro ⟨j, k', usedJ, addressJ, cbJ, why⟩ k'' cb'' s' toEnd
        have same := inv.distinct j i usedJ used (addressJ.trans isAddress.symm)
        subst same
        have sameCall : k' = k'' := Option.some.inj (cbJ.symm.trans cb'')
        subst sameCall
        have sameCall' : k' = k := Option.some.inj (cbJ.symm.trans cb)
        subst sameCall'
        have pathEnd : system.Reachable s' :=
          ReachableFrom.trans (path.step (.disconnectLocked t address) idle) toEnd
        obtain ⟨madeNext, addressNext⟩ := made_step (a := .disconnectLocked t address) made
        obtain ⟨madeEnd, addressEnd⟩ := made_run madeNext toEnd
        have ending := ending_of_answerable path found cb why t
        have counted := answers_count_false pathEnd madeEnd
        rw [addressEnd, addressNext, callAddress, isAddress] at counted
        exact ⟨(ending_run ending madeNext toEnd).not_forgotten, counted⟩

/-- A `connect` for address 7 up to the issued attempt. -/
def attemptSchedule : List Action :=
  [.connectLocked 0 7 0, .connectNotify 0 ⟨0, 7, 0, slotNo 0, 0⟩,
   .connectStopScan 0 ⟨0, 7, 0, slotNo 0, 0⟩, .connectIssue 0 ⟨0, 7, 0, slotNo 0, 0⟩ true]

theorem disconnect_answers_connected :
    ∃ s, system.Reachable s ∧ s.tasks 1 = .idle ∧ Answerable s 7 ∧ DisconnectAnswers s 1 7 := by
  have path := system.reachable_final
    (attemptSchedule ++ [.established 0 0, .onConnect 0 0 false 247])
  have answerable : Answerable (system.final
      (attemptSchedule ++ [.established 0 0, .onConnect 0 0 false 247])) 7 :=
    ⟨0, 0, by decide, rfl, rfl, .inl rfl⟩
  exact ⟨_, path, rfl, answerable, (disconnect_answers_iff _ path 1 rfl 7).mpr answerable⟩

/-- While the attempt for address 7 is on its way, a disconnect of 7 is forgotten
-- the link comes up and stays -- and a disconnect of the absent 9 is silent. -/
theorem disconnect_unanswered :
    ∃ s, system.Reachable s ∧ s.tasks 1 = .idle ∧ (s.slots 0).state = .connecting ∧
      (s.slots 0).address = 7 ∧ s.slots.findByAddrLocked 9 = none ∧
      ¬ DisconnectAnswers s 1 7 ∧ ¬ DisconnectAnswers s 1 9 := by
  refine ⟨_, system.reachable_final attemptSchedule, rfl, rfl, rfl, by decide, ?_, ?_⟩
  · intro answers
    have later := system.reachable_finalFrom always
      (effect (system.final attemptSchedule) (.disconnectLocked 1 7))
      [.established 0 0, .onConnect 0 0 false 247]
    refine (answers 0 rfl _ later).1 ⟨0, rfl, ?_⟩
    rintro ⟨t, pc⟩
    cases t with
    | zero => cases pc
    | succ t => cases pc
  · rintro ⟨v, trace, -⟩
    cases trace

end NimbleProxy.Backend.Connection
