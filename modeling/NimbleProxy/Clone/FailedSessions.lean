/-
# Clone.FailedSessions -- what a session that failed leaves behind

`try_session` gives a connect fifteen seconds and then returns false, but NimBLE goes
on with the connect: `disconnect` has no effect on it, and the second wait of the
first session does not even call `disconnect`. The answer comes later. If it is a
link, the next `connect` finds the client occupied; if it is a failure that arrives
after the next attempt has drained `g_connect_sem`, that attempt takes it for its own.

`leavesBehind` names the steps with which this begins: a return while the answer of a
connect is owed, or while a link stands that is not hung up, and a new attempt while
the link of a failed one is still being torn down. Without them an attempt finds the
client idle and acts on its own answer only (`Tidy`).
-/
import NimbleProxy.Clone.Attempts
import NimbleProxy.Clone.ReadyInvariant

namespace NimbleProxy.Clone.Attempts

open NimbleProxy.Theory NimbleProxy.Clone.Upstream ActionSystem

set_option autoImplicit false

/-! ## The property and the condition -/

/-- When the call of `try_session` after one that failed issues a connect, there is no link and
no connect whose answer is owed. -/
def NothingLeft (s : State) : Prop :=
  ∀ phase target, s.up.pc = .session (.connect phase) target → s.record.failed = true →
    s.up.link = .idle

/-- The signal an attempt has taken and the value it is about to load are those of its connect. -/
def OwnAnswer (s : State) : Prop :=
  ∀ phase target, s.up.pc = .session (.loadConnectOk phase) target →
    s.record.taken = some s.record.issued ∧ s.record.okFrom = some s.record.issued

/-- `try_session` returns false at this position. -/
def givesUp (s : Upstream.State) (outcome : Bool) : SessionPos → Bool
  | .createClient => !(s.clientCreated || outcome)
  | .connect _ | .awaitConnect .steady | .awaitDisconnect | .finalizeServer => !outcome
  | .loadConnectOk _ => !s.connectOk
  | .hangUp => true
  | _ => false

/-- The step returns false while an answer is owed, or while a link stands that is not hung up;
or it begins an attempt after a failed one whose link is not yet reported down. -/
def leavesBehind (s : State) (outcome : Bool) : Pc → Bool
  | .session pos _ =>
      givesUp s.up outcome pos &&
        (pending s.up.link || standing s.up.link && decide (pos ≠ .hangUp))
  | .storeScanning _ => s.record.failed && decide (s.up.link ≠ .idle)
  | _ => false

/-- **The condition.** -/
def FailsClean (s : State) : Action → Prop
  | .supervisor outcome _ => leavesBehind s outcome s.up.pc = false
  | _ => True

instance (s : State) : (a : Action) → Decidable (FailsClean s a)
  | .supervisor .. => inferInstanceAs (Decidable (_ = _))
  | .configure _ | .established | .attemptFailed | .linkLost _ | .onConnect _ | .onConnectFail _
  | .onDisconnect _ => inferInstanceAs (Decidable True)

/-! ## The invariant -/

/-- Between the call of `connect` and the end of the wait an answer is owed or was given; nowhere
else is one owed, but for the hang-up after a wait that was too short. -/
def Answers (s : State) : Pc → Prop
  | .session (.clearConnectOk _) _ | .session (.connect _) _ =>
      pending s.up.link = false ∧ s.up.connectSem = some false
  | .session (.awaitConnect _) _ =>
      (pending s.up.link = true ∧ s.up.connectSem = some false) ∨
      (pending s.up.link = false ∧ s.record.signal = some s.record.issued ∧
        s.record.okFrom = some s.record.issued)
  | .session (.loadConnectOk _) _ =>
      pending s.up.link = false ∧ s.record.taken = some s.record.issued ∧
        s.record.okFrom = some s.record.issued
  | .session .hangUp _ => True
  | _ => pending s.up.link = false

/-- Where the client is idle, and why. -/
def Vacant (s : State) : Pc → Prop
  | .session .createClient _ | .session .storeConnecting _ | .session (.drainConnectSem .first) _
  | .session (.clearConnectOk .first) _ | .session (.connect .first) _ => s.record.failed = true
  | .session .dropMirror _ | .session .clientDisconnect _ | .session .awaitDisconnect _ =>
      s.up.disconnectSem = some true
  | .session .finalizeServer _ | .session (.drainConnectSem .steady) _
  | .session (.clearConnectOk .steady) _ | .session (.connect .steady) _ => True
  | _ => False

structure Tidy (s : State) : Prop where
  answers : Answers s s.up.pc
  idle : Vacant s s.up.pc → s.up.link = .idle

section Steps

variable {s : State}

theorem tidy_init : Tidy {} := ⟨rfl, fun _ => rfl⟩

@[simp] theorem pending_idle : pending .idle = false := rfl

theorem pending_hangUp (link : Link) : pending link.hangUp = pending link := by
  cases link with
  | up announced lost => cases announced <;> rfl
  | idle | attempting | failed => rfl

theorem effect_session {pos : SessionPos} {target : Target} (pc : s.up.pc = .session pos target)
    (outcome : Bool) (mtu : UInt16) :
    effect s (.supervisor outcome mtu) =
      ⟨trySession s.up target outcome mtu pos, (s.record.note outcome (.session pos target)).close
        (returned (.session pos target) (trySession s.up target outcome mtu pos).pc)⟩ := by
  simp only [effect, Upstream.effect, supervisorTask, pc]

theorem answers_session {pos : SessionPos} {target : Target} {outcome : Bool} {mtu : UInt16}
    (pc : s.up.pc = .session pos target) (answers : Answers s (.session pos target))
    (guard : outcome = true → s.up.available = true) (clean : FailsClean s (.supervisor outcome mtu)) :
    Answers (effect s (.supervisor outcome mtu)) (effect s (.supervisor outcome mtu)).up.pc := by
  simp only [FailsClean, leavesBehind, pc] at clean
  simp only [State.available, pc] at guard
  rw [effect_session pc]
  cases pos with
  | drainConnectSem phase => exact ⟨answers, rfl⟩
  | clearConnectOk phase => exact answers
  | connect phase =>
      cases outcome with
      | false => exact answers.1
      | true => exact .inl ⟨rfl, answers.2⟩
  | awaitConnect phase =>
      cases outcome with
      | true =>
          have given : s.up.connectSem = some true := by simpa using guard rfl
          rcases answers with ⟨-, drained⟩ | ⟨settled, own, ok⟩
          · rw [given] at drained
            cases drained
          · exact ⟨settled, own, ok⟩
      | false =>
          cases phase with
          | first => trivial
          | steady =>
              have settled : pending s.up.link = false ∧ standing s.up.link = false := by
                simpa [givesUp] using clean
              exact settled.1
  | loadConnectOk phase =>
      simp only [trySession]
      cases s.up.connectOk with
      | false => exact answers.1
      | true => cases phase <;> exact answers.1
  | hangUp =>
      have settled : pending s.up.link = false := by simpa [givesUp] using clean
      exact (pending_hangUp s.up.link).trans settled
  | clientDisconnect => exact (pending_hangUp s.up.link).trans answers
  | createClient =>
      simp only [trySession]
      cases s.up.clientCreated || outcome <;> exact answers
  | discover phase =>
      cases outcome with
      | false => trivial
      | true =>
          simp only [trySession]
          cases phase
          · cases s.up.mirrorBuilt <;> exact answers
          · exact answers
  | buildFrom | rebind =>
      cases outcome with
      | false => trivial
      | true => exact answers
  | awaitDisconnect | finalizeServer => cases outcome <;> exact answers
  | advertise =>
      simp only [trySession]
      cases s.up.advertising <;> exact answers
  | storeConnecting | storeDiscovering | drainDisconnectSem | dropMirror | prime | subscribe
  | storeReady => exact answers

/-- Outside `try_session` the supervisor touches neither the link nor the semaphore. -/
theorem answers_loop {outcome : Bool} {mtu : UInt16}
    (outside : ∀ pos target, s.up.pc ≠ .session pos target) (answers : Answers s s.up.pc) :
    Answers (effect s (.supervisor outcome mtu)) (effect s (.supervisor outcome mtu)).up.pc := by
  simp only [effect, Upstream.effect, supervisorTask]
  cases pc : s.up.pc with
  | session pos target => exact absurd pc (outside pos target)
  | snapshot | loadState target =>
      simp only [pc] at answers ⊢
      split <;> exact answers
  | storeDisabled | storeAddress target | storeScanning target | backoff | pump =>
      simp only [pc] at answers
      exact answers

theorem idle_session {pos : SessionPos} {target : Target} {outcome : Bool} {mtu : UInt16}
    (pc : s.up.pc = .session pos target)
    (idle : Vacant s (.session pos target) → s.up.link = .idle)
    (guard : outcome = true → s.up.available = true)
    (vacant : Vacant (effect s (.supervisor outcome mtu)) (effect s (.supervisor outcome mtu)).up.pc) :
    (effect s (.supervisor outcome mtu)).up.link = .idle := by
  simp only [State.available, pc] at guard
  rw [effect_session pc] at vacant ⊢
  cases pos with
  | createClient =>
      simp only [trySession] at vacant ⊢
      cases created : s.up.clientCreated || outcome with
      | false =>
          rw [created] at vacant
          cases vacant
      | true =>
          rw [created] at vacant
          exact idle vacant
  | drainConnectSem phase | clearConnectOk phase => cases phase <;> exact idle vacant
  | drainDisconnectSem => cases vacant
  | clientDisconnect =>
      simp only [trySession, idle vacant]
      rfl
  | awaitDisconnect =>
      cases outcome with
      | false => cases vacant
      | true =>
          have given : s.up.disconnectSem = some true := by simpa using guard rfl
          exact idle given
  | finalizeServer =>
      cases outcome with
      | false => cases vacant
      | true => exact idle trivial
  | connect phase | buildFrom | rebind => cases outcome <;> cases vacant
  | awaitConnect phase => cases outcome <;> cases phase <;> cases vacant
  | loadConnectOk phase =>
      simp only [trySession] at vacant
      cases ok : s.up.connectOk <;> cases phase <;> rw [ok] at vacant <;> cases vacant
  | discover phase =>
      simp only [trySession] at vacant
      cases outcome <;> cases phase <;> cases built : s.up.mirrorBuilt <;> rw [built] at vacant <;>
        cases vacant
  | advertise =>
      simp only [trySession] at vacant
      cases on : s.up.advertising <;> rw [on] at vacant <;> cases vacant
  | storeConnecting | dropMirror => exact idle vacant
  | hangUp | storeDiscovering | prime | subscribe | storeReady => cases vacant

theorem idle_loop {outcome : Bool} {mtu : UInt16}
    (outside : ∀ pos target, s.up.pc ≠ .session pos target)
    (clean : FailsClean s (.supervisor outcome mtu))
    (vacant : Vacant (effect s (.supervisor outcome mtu)) (effect s (.supervisor outcome mtu)).up.pc) :
    (effect s (.supervisor outcome mtu)).up.link = .idle := by
  simp only [FailsClean] at clean
  simp only [effect, Upstream.effect, supervisorTask] at vacant ⊢
  cases pc : s.up.pc with
  | session pos target => exact absurd pc (outside pos target)
  | storeScanning target =>
      simp only [pc] at vacant
      simpa [pc, leavesBehind, show s.record.failed = true from vacant] using clean
  | snapshot | loadState target =>
      simp only [pc] at vacant
      split at vacant <;> cases vacant
  | storeDisabled | storeAddress target | backoff | pump =>
      simp only [pc] at vacant
      cases vacant

/-- Only `onConnect` and `onConnectFail` settle what is owed. -/
theorem pending_host {a : Action} (guard : Guard s a) (host : ∀ outcome mtu, a ≠ .supervisor outcome mtu) :
    (effect s a).up.pc = s.up.pc ∧ (effect s a).record.failed = s.record.failed ∧
    ((pending (effect s a).up.link = pending s.up.link ∧ (effect s a).record = s.record ∧
        (effect s a).up.connectSem = s.up.connectSem) ∨
      (pending s.up.link = true ∧ pending (effect s a).up.link = false ∧
        (effect s a).record = s.record.answered s.up.connectSem)) := by
  cases a with
  | supervisor outcome mtu => exact absurd rfl (host outcome mtu)
  | configure target => exact ⟨rfl, rfl, .inl ⟨rfl, rfl, rfl⟩⟩
  | established | attemptFailed | onDisconnect reason =>
      have link : s.up.link = _ := guard
      exact ⟨rfl, rfl, .inl ⟨by rw [link]; rfl, rfl, rfl⟩⟩
  | linkLost announced =>
      have link : s.up.link = .up announced false := guard
      exact ⟨rfl, rfl, .inl ⟨by rw [link]; cases announced <;> rfl, rfl, rfl⟩⟩
  | onConnect lost | onConnectFail reason =>
      have link : s.up.link = _ := guard
      exact ⟨rfl, rfl, .inr ⟨by rw [link]; rfl, rfl, rfl⟩⟩

theorem answers_host {a : Action} (guard : Guard s a)
    (host : ∀ outcome mtu, a ≠ .supervisor outcome mtu) (answers : Answers s s.up.pc) :
    Answers (effect s a) (effect s a).up.pc := by
  obtain ⟨samePc, -, ⟨samePending, sameRecord, sameSem⟩ | ⟨owed, settled, record⟩⟩ :=
    pending_host guard host
  · rw [samePc]
    unfold Answers at answers ⊢
    rw [samePending, sameRecord, sameSem]
    exact answers
  · rw [samePc]
    cases pc : s.up.pc with
    | session pos target =>
        rw [pc] at answers
        cases pos with
        | awaitConnect phase =>
            rcases answers with ⟨-, drained⟩ | ⟨none, -⟩
            · refine .inr ⟨settled, ?_⟩
              rw [record, drained]
              exact ⟨rfl, rfl⟩
            · rw [owed] at none
              cases none
        | hangUp => trivial
        | clearConnectOk phase | connect phase | loadConnectOk phase =>
            exact absurd (owed.symm.trans answers.1) (by simp)
        | _ => exact absurd (owed.symm.trans answers) (by simp)
    | _ =>
        rw [pc] at answers
        exact absurd (owed.symm.trans answers) (by simp)

/-- Nothing comes from an idle client, and a signal of a disconnect means that it is idle. -/
theorem idle_host {a : Action} (guard : Guard s a)
    (host : ∀ outcome mtu, a ≠ .supervisor outcome mtu)
    (idle : Vacant s s.up.pc → s.up.link = .idle) (vacant : Vacant (effect s a) (effect s a).up.pc) :
    (effect s a).up.link = .idle := by
  obtain ⟨samePc, sameFailed, -⟩ := pending_host guard host
  rw [samePc] at vacant
  have before (same : (effect s a).up.disconnectSem = s.up.disconnectSem) : s.up.link = .idle := by
    apply idle
    unfold Vacant at vacant ⊢
    rw [sameFailed, same] at vacant
    exact vacant
  cases a with
  | supervisor outcome mtu => exact absurd rfl (host outcome mtu)
  | configure target => exact before rfl
  | onDisconnect reason => rfl
  | onConnectFail reason => rfl
  | established | attemptFailed | linkLost announced | onConnect lost =>
      have link : s.up.link = _ := guard
      exact absurd (link.symm.trans (before rfl)) (by simp)

theorem tidy_step {a : Action} (tidy : Tidy s) (guard : Guard s a) (clean : FailsClean s a) :
    Tidy (effect s a) := by
  cases a with
  | supervisor outcome mtu =>
      cases pc : s.up.pc with
      | session pos target =>
          exact ⟨answers_session pc (pc ▸ tidy.answers) guard clean,
            idle_session pc (pc ▸ tidy.idle) guard⟩
      | snapshot | storeDisabled | storeAddress target | loadState target | storeScanning target
      | backoff | pump =>
          have outside : ∀ pos target, s.up.pc ≠ .session pos target := by simp [pc]
          exact ⟨answers_loop outside tidy.answers, idle_loop outside clean⟩
  | configure _ | established | attemptFailed | linkLost _ | onConnect _ | onConnectFail _
  | onDisconnect _ =>
      exact ⟨answers_host guard (by simp) tidy.answers, idle_host guard (by simp) tidy.idle⟩

theorem Tidy.nothingLeft (tidy : Tidy s) : NothingLeft s := by
  intro phase target pc failed
  apply tidy.idle
  rw [pc]
  cases phase with
  | first => exact failed
  | steady => trivial

theorem Tidy.ownAnswer (tidy : Tidy s) : OwnAnswer s := by
  intro phase target pc
  have answers := tidy.answers
  rw [pc] at answers
  exact answers.2

/-! ## The condition is needed -/

/-- The supervisor's next step, in which everything it calls succeeds. -/
def onward : Action := .supervisor true 0

/-- From its beginning, `try_session` gets to its connect without touching the link. -/
theorem connect_of_createClient {target : Target} (pc : s.up.pc = .session .createClient target) :
    ∃ t, system.ReachableFrom always s t ∧ t.up.pc = .session (.connect .first) target ∧
      t.up.link = s.up.link ∧ t.record.failed = s.record.failed := by
  refine ⟨system.finalFrom always s (List.replicate 4 onward), system.reachable_finalFrom _ _ _, ?_⟩
  simp [finalFrom, run, system, Guard, Upstream.Guard, State.available, always, onward, effect,
    Upstream.effect, supervisorTask, trySession, pc, Record.note, Record.close, returned,
    List.replicate]

/-- After the back-off an enabled supervisor calls `try_session` again. -/
theorem createClient_of_backoff (pc : s.up.pc = .backoff) (notReady : s.up.gState ≠ .ready) :
    ∃ t target, system.ReachableFrom always s t ∧ t.up.pc = .session .createClient target ∧
      t.up.link = s.up.link ∧ t.record.failed = s.record.failed := by
  refine ⟨system.finalFrom always s ([onward, .configure ⟨true, 7, 0⟩] ++ List.replicate 4 onward),
    ⟨true, 7, 0⟩, system.reachable_finalFrom _ _ _, ?_⟩
  simp [finalFrom, run, system, Guard, Upstream.Guard, State.available, always, onward, effect,
    Upstream.effect, supervisorTask, pc, notReady, Record.note, Record.close, returned,
    List.replicate]

/-- With these steps `try_session` returns false, and leaves the link as it was or hung up. -/
theorem failed_of_givesUp {pos : SessionPos} {target : Target} {outcome : Bool} (mtu : UInt16)
    (pc : s.up.pc = .session pos target) (gives : givesUp s.up outcome pos = true) :
    (effect s (.supervisor outcome mtu)).up.pc = .backoff ∧
      (effect s (.supervisor outcome mtu)).record.failed = true ∧
      (effect s (.supervisor outcome mtu)).up.gState = s.up.gState ∧
      (effect s (.supervisor outcome mtu)).up.link =
        if pos = .hangUp then s.up.link.hangUp else s.up.link := by
  rw [effect_session pc]
  cases pos with
  | createClient =>
      have no : (s.up.clientCreated || outcome) = false := by simpa [givesUp] using gives
      simp [trySession, no, State.sessionFailed, Record.close, returned]
  | connect phase | awaitDisconnect | finalizeServer =>
      have no : outcome = false := by simpa [givesUp] using gives
      simp [trySession, no, State.sessionFailed, Record.close, returned]
  | awaitConnect phase =>
      cases phase with
      | first => cases gives
      | steady =>
          have no : outcome = false := by simpa [givesUp] using gives
          simp [trySession, no, State.sessionFailed, Record.close, returned]
  | loadConnectOk phase =>
      have no : s.up.connectOk = false := by simpa [givesUp] using gives
      simp [trySession, no, State.sessionFailed, Record.close, returned]
  | hangUp => simp [trySession, State.sessionFailed, Record.close, returned]
  | _ => cases gives

/-- What such a step leaves behind is still there at the next connect. -/
theorem left_of_leavesBehind {outcome : Bool} {mtu : UInt16} (path : system.Reachable s)
    (leaves : leavesBehind s outcome s.up.pc = true) :
    ∃ t, system.ReachableFrom always (effect s (.supervisor outcome mtu)) t ∧ ¬ NothingLeft t := by
  have atConnect : ∀ (u : State) (target : Target), u.up.pc = .session .createClient target →
      u.record.failed = true → u.up.link ≠ .idle →
      ∃ t, system.ReachableFrom always u t ∧ ¬ NothingLeft t := by
    intro u target pc failed busy
    obtain ⟨t, path, atConnect, sameLink, sameFailed⟩ := connect_of_createClient pc
    refine ⟨t, path, fun left => busy ?_⟩
    rw [← sameLink]
    exact left .first target atConnect (sameFailed.trans failed)
  cases pc : s.up.pc with
  | session pos target =>
      simp only [pc, leavesBehind, Bool.and_eq_true] at leaves
      obtain ⟨backoff, failed, sameState, link⟩ := failed_of_givesUp mtu pc leaves.1
      have notReady := not_ready_reachable (up_reachable path) (by rw [pc]; rfl)
      obtain ⟨t, target', toCreate, atCreate, sameLink, sameFailed⟩ :=
        createClient_of_backoff backoff (sameState ▸ notReady)
      have busy : t.up.link ≠ .idle := by
        rw [sameLink, link]
        intro idle
        split at idle
        · have none : s.up.link = .idle := by
            cases l : s.up.link <;> simp_all [Link.hangUp]
          simp [none, pending, standing] at leaves
        · simp [idle, pending, standing] at leaves
      obtain ⟨u, toConnect, left⟩ := atConnect t target' atCreate (sameFailed.trans failed) busy
      exact ⟨u, toCreate.trans toConnect, left⟩
  | storeScanning target =>
      have failed : s.record.failed = true ∧ s.up.link ≠ .idle := by
        simpa [pc, leavesBehind] using leaves
      refine atConnect _ target ?_ ?_ ?_
      · simp [effect, Upstream.effect, supervisorTask, pc]
      · simp [effect, Upstream.effect, supervisorTask, pc, Record.note, Record.close, returned,
          failed.1]
      · simp [effect, Upstream.effect, supervisorTask, pc, failed.2]
  | snapshot | storeDisabled | storeAddress target | loadState target | backoff | pump =>
      simp [pc, leavesBehind] at leaves

end Steps

/-- **A failed session leaves nothing behind, as long as it returns with nothing owed.** In a run
in which `try_session` never returns false while the answer of a connect is owed or a
link stands that is not hung up, and is not called again before such a link is
reported down, the next connect finds the client idle, and every attempt acts on the
signal and the value of its own connect. After a step that does not meet this there
is a continuation in which the next connect finds the client occupied. -/
theorem failed_session_leaves_nothing (s : State) :
    (system.ReachableWhen FailsClean s → NothingLeft s ∧ OwnAnswer s) ∧
      ∀ a, system.Reachable s → Guard s a → ¬ FailsClean s a →
        ∃ t, system.ReachableFrom always (effect s a) t ∧ ¬ NothingLeft t := by
  constructor
  · intro path
    have tidy : Tidy s :=
      ReachableFrom.invariant (fun _ _ tidy guard clean => tidy_step tidy guard clean) path tidy_init
    exact ⟨tidy.nothingLeft, tidy.ownAnswer⟩
  · intro a path guard notClean
    cases a with
    | supervisor outcome mtu =>
        exact left_of_leavesBehind path (by simpa [FailsClean] using notClean)
    | configure _ | established | attemptFailed | linkLost _ | onConnect _ | onConnectFail _
    | onDisconnect _ => exact absurd trivial notClean

/-- A first attempt waits for its connect. -/
def waitingSchedule : List Action :=
  ([.configure ⟨true, 7, 0⟩] : List Action) ++ List.replicate 9 onward

/-- NimBLE reports a failure, and the next attempt is about to connect. -/
def retrySchedule : List Action :=
  waitingSchedule ++ ([.attemptFailed, .onConnectFail 13] : List Action) ++ List.replicate 11 onward

/-- The wait ends without an answer, and so does `try_session`. -/
def impatientSchedule : List Action :=
  waitingSchedule ++ ([.supervisor false 0, .supervisor false 0] : List Action)

theorem failed_session_leaves_nothing_retry :
    (∃ s target, system.ReachableWhen FailsClean s ∧
      s.up.pc = .session (.connect .first) target ∧ s.record.failed = true ∧ s.up.link = .idle) ∧
    (∃ s, s.record.issued = 2 ∧ s.record.taken = some 2 ∧ OwnAnswer s) ∧
    ∃ s t, system.ReachableFrom always (effect s (.supervisor false 0)) t ∧ ¬ NothingLeft t := by
  have path := system.reachable_finalFrom FailsClean system.init
  refine ⟨⟨_, ⟨true, 7, 0⟩, path retrySchedule, by decide +kernel, by decide +kernel, ?_⟩,
    ⟨_, by decide +kernel, by decide +kernel, ((failed_session_leaves_nothing _).1
      (path (retrySchedule ++ [onward, .established, .onConnect false, onward]))).2⟩,
    system.final impatientSchedule.dropLast, ?_⟩
  · exact ((failed_session_leaves_nothing _).1 (path retrySchedule)).1 .first ⟨true, 7, 0⟩
      (by decide +kernel) (by decide +kernel)
  · exact (failed_session_leaves_nothing _).2 _ (system.reachable_final _) (by decide +kernel)
      (by decide +kernel)

/-- The answer comes after the wait. If it is a link, the next connect finds the client connected;
if it is a failure that comes when the next attempt has drained the semaphore, that
attempt takes it for the answer to its own connect. -/
theorem answer_after_the_wait :
    (∃ s, system.Reachable s ∧ s.up.link = .up true false ∧ ¬ NothingLeft s) ∧
    ∃ s, system.Reachable s ∧ s.record.issued = 2 ∧ s.record.taken = some 1 ∧ ¬ OwnAnswer s := by
  refine ⟨⟨_, system.reachable_final
    (impatientSchedule ++ [.established, .onConnect false] ++ List.replicate 9 onward),
    by decide +kernel, ?_⟩, ⟨_, system.reachable_final (impatientSchedule ++
      List.replicate 9 onward ++ [.attemptFailed, .onConnectFail 13, onward, onward]),
    by decide +kernel, by decide +kernel, ?_⟩⟩
  · intro left
    have idle := left .first ⟨true, 7, 0⟩ (by decide +kernel) (by decide +kernel)
    exact absurd idle (by decide +kernel)
  · intro own
    exact absurd (own .first ⟨true, 7, 0⟩ (by decide +kernel)).1 (by decide +kernel)

end NimbleProxy.Clone.Attempts
