/-
# Backend.CallbackDiscipline -- what a connect call's callback hears, and when

Each action moves at most one call from one stage to the next; one lemma for
each shows which (`calls_step`). So every call is at a stage in every reachable
state (`calls_reachable`), and everything its callback can hear is read off the
stage (`callback_discipline`).
-/
import NimbleProxy.Backend.CallStages

namespace NimbleProxy.Backend.Connection

open NimbleProxy.Theory

set_option autoImplicit false

section

variable {s s' : State}

/-! ## Every action keeps it -/

/-- Steps that only write into the record of a call whose attempt is on its way:
the outcome becomes known, or `connect` returns true. -/
theorem Moves.ofRecord {k : CallId} (born : k < s.history.nextCall)
    (change : CallRecord → CallRecord) (slot : ∀ r, (change r).slot = r.slot)
    (address : ∀ r, (change r).address = r.address) (slots : s'.slots = s.slots)
    (host : s'.host = s.host) (owed : ∀ t, (s'.tasks t).owed? = (s.tasks t).owed?)
    (history : s'.history = s.history.record k change) : Moves s s' k := by
  refine ⟨born, by rw [history]; rfl, ?_, ?_, ?_, ?_, ?_, ?_, ?_⟩
  · intro j
    rw [history]
    exact ⟨record_field CallRecord.slot _ _ _ _ slot, record_field CallRecord.address _ _ _ _ address⟩
  · intro j other
    rw [history, record_of_ne _ other]
  · intro i j cb
    rw [slots] at cb ⊢
    exact ⟨cb, rfl⟩
  · intro j _ live
    unfold InSlot
    rw [slots]
  · intro j _ b
    exact hostOwes_congr (by rw [host]) j b
  · intro j _
    exact taskOwes_congr owed j
  · intro j _
    unfold State.answers
    rw [history, record_trace]

/-- A waiting call stays so while only its record is written. -/
theorem At.record_waiting {k : CallId} (at_ : At s k .waiting) (slots : s'.slots = s.slots)
    (host : s'.host = s.host) (owed : ∀ t, (s'.tasks t).owed? = (s.tasks t).owed?)
    (trace : s'.history.trace = s.history.trace)
    (slot : (s'.history.calls k).slot = (s.history.calls k).slot)
    (returned : (s'.history.calls k).returned ≠ some false) : At s' k .waiting := by
  refine ⟨?_, ?_, ?_, ?_, ?_, ?_, ?_⟩
  · intro live
    rw [← at_.slot]
    unfold InSlot
    rw [slots]
  · intro b
    rw [← at_.host]
    exact hostOwes_congr (by rw [host]) k b
  · rw [← at_.task]
    exact taskOwes_congr owed k
  · intro b none
    cases none
  · exact ⟨fun h => absurd h returned, fun h => by cases h⟩
  · rw [slot]
    exact at_.allotted
  · unfold State.answers
    rw [trace]
    exact at_.answers

/-- A task with a frame is in its call, which waits in the slot of the frame. -/
theorem CallsInv.of_frame (calls : CallsInv s) (inv : Inv s) {t : TaskId} {f : Frame}
    (held : (s.tasks t).frame? = some f) :
    (s.tasks t).call? = some f.call ∧ Claims s f ∧ At s f.call .waiting ∧
      f.call < s.history.nextCall := by
  have inCall := TaskPc.call?_of_frame? held
  have claim := inv.claims t f held
  exact ⟨inCall, claim, calls.waiting claim.cb claim.state, (calls.running t _ inCall).1⟩

theorem CallsInv.owed_congr (calls : CallsInv s)
    (same : ∀ t, (s'.tasks t).owed? = (s.tasks t).owed?) (t : TaskId) (f : Frame)
    (cb : Option ConnectCallback) (debt : (s'.tasks t).owed? = some (f, cb)) :
    cb = some f.call ∧ (s.history.calls f.call).address = f.address := by
  rw [same] at debt
  exact calls.owed t f cb debt

theorem CallsInv.owedOnce_congr (calls : CallsInv s)
    (same : ∀ t, (s'.tasks t).owed? = (s.tasks t).owed?) (t t' : TaskId) (f f' : Frame)
    (cb cb' : Option ConnectCallback) (debt : (s'.tasks t).owed? = some (f, cb))
    (debt' : (s'.tasks t').owed? = some (f', cb')) : f.call = f'.call → t = t' := by
  rw [same] at debt debt'
  exact calls.owedOnce t t' f f' cb cb' debt debt'

/-- The host takes the attempt and `connect` returns true. -/
theorem calls_connectIssue_issued (inv : Inv s) (calls : CallsInv s) {t : TaskId} {f : Frame}
    (guard : s.tasks t = .claimed .issue f) : CallsInv (connectIssue s t f true) := by
  have held : (s.tasks t).frame? = some f := by rw [guard]; rfl
  obtain ⟨inCall, claim, waits, born⟩ := calls.of_frame inv held
  have owedSame : ∀ u, ((connectIssue s t f true).tasks u).owed? = (s.tasks u).owed? :=
    view_update TaskPc.owed? (by rw [guard]; rfl)
  have unissuedSame :
      ∀ u, ((connectIssue s t f true).tasks u).unissued? = (s.tasks u).unissued? :=
    view_update TaskPc.unissued? (by rw [guard]; rfl)
  have outcomeSame : ∀ j, ((connectIssue s t f true).history.calls j).outcome =
      (s.history.calls j).outcome :=
    fun j => record_field CallRecord.outcome _ _ _ (fun r => { r with returned := some true })
      fun _ => rfl
  refine calls.move (Moves.ofRecord born (fun r => { r with returned := some true }) (fun _ => rfl)
    (fun _ => rfl) rfl rfl owedSame rfl)
    ?_ (calls.owed_congr owedSame) (calls.owedOnce_congr owedSame) ?_ calls.hostOwed ?_
    ⟨_, waits.record_waiting rfl rfl owedSame rfl ?_ ?_⟩
  · intro u j inU
    have notT : u ≠ t := by
      rintro rfl
      simp [connectIssue, TaskPc.call?] at inU
    simp only [connectIssue, if_true, Function.update_of_ne notT] at inU ⊢
    have notCall : j ≠ f.call := by
      rintro rfl
      exact notT (CallsInv.taskOnce inv calls inU inCall)
    exact ⟨inU, by rw [record_of_ne _ notCall]⟩
  · intro u g pending
    rw [unissuedSame] at pending
    rw [outcomeSame]
    exact calls.unissued u g pending
  · intro c j b isEnded
    rw [outcomeSame]
    simp only [connectIssue, if_true, Function.update_apply] at isEnded
    split at isEnded
    · cases isEnded
    · exact calls.ended c j b isEnded
  · simp [connectIssue]
  · simp [connectIssue]

/-- The host refuses the attempt, and the call has the failure's outcome. -/
theorem calls_connectIssue_refused (inv : Inv s) (calls : CallsInv s) {t : TaskId} {f : Frame}
    (guard : s.tasks t = .claimed .issue f) : CallsInv (connectIssue s t f false) := by
  have held : (s.tasks t).frame? = some f := by rw [guard]; rfl
  obtain ⟨inCall, claim, waits, born⟩ := calls.of_frame inv held
  have owedSame : ∀ u, ((connectIssue s t f false).tasks u).owed? = (s.tasks u).owed? :=
    view_update TaskPc.owed? (by rw [guard]; rfl)
  have callSame : ∀ u, ((connectIssue s t f false).tasks u).call? = (s.tasks u).call? :=
    view_update TaskPc.call? (by rw [guard]; rfl)
  have returnedSame : ∀ j, ((connectIssue s t f false).history.calls j).returned =
      (s.history.calls j).returned :=
    fun j => record_field CallRecord.returned _ _ _ (fun r => { r with outcome := some false })
      fun _ => rfl
  refine calls.move (Moves.ofRecord born (fun r => { r with outcome := some false }) (fun _ => rfl)
    (fun _ => rfl) rfl rfl owedSame rfl)
    ?_ (calls.owed_congr owedSame) (calls.owedOnce_congr owedSame) ?_ calls.hostOwed ?_
    ⟨_, waits.record_waiting rfl rfl owedSame rfl ?_ ?_⟩
  · intro u j inU
    rw [callSame] at inU
    exact ⟨inU, returnedSame j⟩
  · intro u g pending
    by_cases here : u = t
    · subst here
      simp only [connectIssue, Bool.false_eq_true, if_false, Function.update_self,
        TaskPc.unissued?, Option.some.injEq] at pending
      subst pending
      simp [connectIssue]
    · simp only [connectIssue, Bool.false_eq_true, if_false, Function.update_of_ne here]
        at pending ⊢
      have notCall : g.call ≠ f.call := by
        intro same
        have inU := TaskPc.call?_of_frame? (TaskPc.frame?_of_unissued? pending)
        rw [same] at inU
        exact here (CallsInv.taskOnce inv calls inU inCall)
      rw [record_of_ne _ notCall]
      exact calls.unissued u g pending
  · intro c j b isEnded
    simp only [connectIssue, Bool.false_eq_true, if_false] at isEnded ⊢
    -- the client of a claimed slot is at rest, so an ended link is another call's
    have notCall : j ≠ f.call := by
      rintro rfl
      exact calls.claimed_no_link inv held c (Link.call?_of_ended? isEnded)
    rw [record_of_ne _ notCall]
    exact calls.ended c j b isEnded
  · simp [connectIssue]
  · rw [returnedSame]
    exact fun h => absurd (waits.returned.mp h) (by decide)

/-- The outcome of an attempt is recorded before the code hears of it. -/
theorem calls_outcome (inv : Inv s) (calls : CallsInv s) {c : ClientPtr} {k : CallId} {b : Bool}
    {link : Link} (guard : s.links c = .attempting k) (isEnded : link.ended? = some (k, b)) :
    CallsInv { s with
      links := Function.update s.links c link
      history := s.history.record k fun r => { r with outcome := some b } } := by
  obtain ⟨i, client, fits⟩ := inv.linked c (by rw [guard]; simp)
  rw [guard] at fits
  have waits := calls.waiting fits.2 fits.1
  have born := (calls.slotOf i k fits.2).1
  have keeps : ∀ j, (s.history.calls j).outcome = some b →
      ((s.history.record k fun r => { r with outcome := some b }).calls j).outcome = some b := by
    intro j was
    by_cases here : j = k
    · subst here
      rw [record_self]
    · rw [record_of_ne _ here]
      exact was
  have returnedSame : ∀ j,
      ((s.history.record k fun r => { r with outcome := some b }).calls j).returned =
        (s.history.calls j).returned :=
    fun j => record_field CallRecord.returned _ _ _ (fun r => { r with outcome := some b })
      fun _ => rfl
  refine calls.move (Moves.ofRecord born (fun r => { r with outcome := some b }) (fun _ => rfl)
    (fun _ => rfl) rfl rfl (fun _ => rfl) rfl) ?_ calls.owed calls.owedOnce ?_ calls.hostOwed ?_
    ⟨_, waits.record_waiting rfl rfl (fun _ => rfl) rfl ?_ ?_⟩
  · exact fun u j inU => ⟨inU, returnedSame j⟩
  · intro u g pending
    -- a claimed slot has no attempt, so this is another call
    have notCall : g.call ≠ k := by
      rintro rfl
      exact calls.claimed_no_link inv (TaskPc.frame?_of_unissued? pending) c (by rw [guard]; rfl)
    simp only [record_of_ne _ notCall]
    exact calls.unissued u g pending
  · intro d j b' endedD
    simp only [Function.update_apply] at endedD
    split at endedD
    · rw [isEnded] at endedD
      obtain ⟨rfl, rfl⟩ := Prod.mk.inj (Option.some.inj endedD)
      simp
    · rename_i notC
      have notCall : j ≠ k := by
        rintro rfl
        have clientD := calls.client_of_call inv (Link.call?_of_ended? endedD) fits.2
        exact notC (Option.some.inj (clientD.symm.trans client))
      simp only [record_of_ne _ notCall]
      exact calls.ended d j b' endedD
  · simp
  · simp only [returnedSame]
    exact fun h => absurd (waits.returned.mp h) (by decide)

theorem calls_connectUnissued (inv : Inv s) (calls : CallsInv s) {t : TaskId} {f : Frame}
    (guard : s.tasks t = .claimed .unissued f) : CallsInv (connectUnissued s t f) := by
  have held : (s.tasks t).frame? = some f := by rw [guard]; rfl
  obtain ⟨inCall, claim, waits, born⟩ := calls.of_frame inv held
  have noOutcome := calls.unissued t f (by rw [guard]; rfl)
  have callSame : ∀ u, ((connectUnissued s t f).tasks u).call? = (s.tasks u).call? :=
    view_update TaskPc.call? (by rw [guard]; rfl)
  have owedT : ((connectUnissued s t f).tasks t).owed? = some (f, some f.call) := by
    simp [connectUnissued, TaskPc.owed?, claim.cb]
  have owedOther : ∀ u, u ≠ t →
      ((connectUnissued s t f).tasks u).owed? = (s.tasks u).owed? := by
    intro u notT
    simp only [connectUnissued, Function.update_of_ne notT]
  have noDebt : ∀ g cb, (s.tasks t).owed? ≠ some (g, cb) := by
    intro g cb debt
    rw [guard] at debt
    cases debt
  have others : ∀ j, j ≠ f.call → ∀ live, InSlot (connectUnissued s t f) j live ↔ InSlot s j live := by
    intro j other
    refine inSlot_update rfl ?_ ?_
    · rw [claim.cb]
      exact fun same => other (Option.some.inj same).symm
    · simp
  refine calls.move (k := f.call) ⟨born, rfl, fun _ => ⟨rfl, rfl⟩, fun _ _ => rfl, ?_, others,
    fun _ _ _ => Iff.rfl, ?_, fun _ _ => rfl⟩ ?_ ?_ ?_ ?_ calls.hostOwed calls.ended
    ⟨.unissued, ?_, ?_, ?_, ?_, ?_, fun _ => waits.allotted (by decide), waits.answers⟩
  · intro i j cb
    simp only [connectUnissued, Function.update_apply] at cb ⊢
    split at cb
    · cases cb
    · rename_i notSlot
      exact ⟨cb, by rw [if_neg notSlot]⟩
  · intro j other
    refine taskOwes_update rfl (fun g => noDebt g _) ?_
    intro g debt
    rw [claim.cb] at debt
    exact other (Option.some.inj (Prod.mk.inj (Option.some.inj debt)).2).symm
  · intro u j inU
    rw [callSame] at inU
    exact ⟨inU, rfl⟩
  · intro u g cb debt
    by_cases here : u = t
    · subst here
      rw [owedT] at debt
      obtain ⟨rfl, rfl⟩ := Prod.mk.inj (Option.some.inj debt)
      exact ⟨rfl, (calls.slotOf _ _ claim.cb).2.2.trans claim.address⟩
    · rw [owedOther u here] at debt
      exact calls.owed u g cb debt
  · intro u u' g g' cb cb' debt debt' same
    refine CallsInv.taskOnce inv calls (k := g.call) ?_ ?_
    · rw [← callSame]
      exact TaskPc.call?_of_owed? debt
    · rw [← callSame, same]
      exact TaskPc.call?_of_owed? debt'
  · intro u g pending
    by_cases here : u = t
    · subst here
      simp [connectUnissued, TaskPc.unissued?] at pending
    · simp only [connectUnissued, Function.update_of_ne here] at pending ⊢
      exact calls.unissued u g pending
  · intro live
    constructor
    · rintro ⟨i, cb, -⟩
      simp only [connectUnissued, Function.update_apply] at cb
      split at cb
      · cases cb
      · rename_i notSlot
        exact absurd (calls.sameSlot cb claim.cb) notSlot
    · exact fun h => by cases h
  · exact waits.host
  · exact ⟨fun _ => rfl, fun _ => ⟨t, f, owedT⟩⟩
  · intro b isB
    cases isB
    exact noOutcome
  · exact ⟨fun h => absurd (waits.returned.mp h) (by decide), fun h => by cases h⟩

theorem calls_connectCallback (inv : Inv s) (calls : CallsInv s) {t : TaskId} {f : Frame}
    {cb : Option ConnectCallback} (guard : s.tasks t = .released .callback f cb) :
    CallsInv (connectCallback s t f cb) := by
  have debt : (s.tasks t).owed? = some (f, cb) := by rw [guard]; rfl
  have inCall := TaskPc.call?_of_owed? debt
  obtain ⟨own, owes⟩ := calls.at_unissued debt
  have address := (calls.owed t f cb debt).2
  have born := (calls.running t _ inCall).1
  subst own
  have records : ∀ j, j ≠ f.call → (connectCallback s t f (some f.call)).history.calls j =
      s.history.calls j := by
    intro j other
    simp only [connectCallback, record_of_ne _ other, invoke_calls]
  have outcomeSame : ∀ j, ((connectCallback s t f (some f.call)).history.calls j).outcome =
      (s.history.calls j).outcome :=
    fun j => record_field CallRecord.outcome _ _ _ (fun r => { r with returned := some true })
      fun _ => rfl
  have addressSame : ((connectCallback s t f (some f.call)).history.calls f.call).address =
      (s.history.calls f.call).address := by
    simp [connectCallback]
  have answered : ∀ j, (connectCallback s t f (some f.call)).answers j =
      s.answers j ++ if f.call = j then [(f.address, false)] else [] :=
    answers_append (v := ⟨.notIssued, f.call, f.address, ⟨false, 0, -1⟩⟩) rfl
  have elsewhere : ∀ u pc, (connectCallback s t f (some f.call)).tasks u = pc → pc ≠ .idle →
      u ≠ t ∧ s.tasks u = pc := by
    intro u pc isPc busy
    by_cases here : u = t
    · subst here
      simp only [connectCallback, Function.update_self] at isPc
      exact absurd isPc.symm busy
    · simp only [connectCallback, Function.update_of_ne here] at isPc
      exact ⟨here, isPc⟩
  have owedBefore : ∀ u g cb, ((connectCallback s t f (some f.call)).tasks u).owed? = some (g, cb) →
      u ≠ t ∧ (s.tasks u).owed? = some (g, cb) := by
    intro u g cb debtU
    obtain ⟨notT, same⟩ := elsewhere u _ rfl (by intro idle; rw [idle] at debtU; cases debtU)
    exact ⟨notT, by rw [same]; exact debtU⟩
  refine calls.move (k := f.call) ⟨born, ?_, ?_, records, fun i j cb => ⟨cb, rfl⟩,
    fun _ _ _ => Iff.rfl, fun _ _ _ => Iff.rfl, ?_, ?_⟩ ?_ ?_ ?_ ?_ calls.hostOwed ?_
    ⟨.failed, ?_, ?_, ?_, ?_, ?_, ?_, ?_⟩
  · simp [connectCallback]
  · intro j
    by_cases here : j = f.call
    · subst here
      simp [connectCallback]
    · rw [records j here]
      exact ⟨rfl, rfl⟩
  · intro j other
    refine taskOwes_update rfl ?_ (fun g h => by cases h)
    intro g debtT
    rw [debt] at debtT
    exact other (Option.some.inj (Prod.mk.inj (Option.some.inj debtT)).2).symm
  · intro j other
    rw [answered, if_neg (fun same => other same.symm), List.append_nil]
  · intro u j inU
    obtain ⟨notT, same⟩ := elsewhere u _ rfl (by intro idle; rw [idle] at inU; cases inU)
    rw [← same] at inU
    have notCall : j ≠ f.call := by
      rintro rfl
      exact notT (CallsInv.taskOnce inv calls inU inCall)
    exact ⟨inU, by rw [records j notCall]⟩
  · intro u g cb debtU
    exact calls.owed u g cb (owedBefore u g cb debtU).2
  · intro u u' g g' cb cb' debtU debtU'
    exact calls.owedOnce u u' g g' cb cb' (owedBefore u g cb debtU).2 (owedBefore u' g' cb' debtU').2
  · intro u g pending
    obtain ⟨-, same⟩ := elsewhere u _ rfl (by intro idle; rw [idle] at pending; cases pending)
    rw [outcomeSame]
    rw [← same] at pending
    exact calls.unissued u g pending
  · intro c j b isEnded
    rw [outcomeSame]
    exact calls.ended c j b isEnded
  · exact owes.slot
  · exact owes.host
  · refine ⟨?_, fun h => by cases h⟩
    rintro ⟨u, g, debtU⟩
    obtain ⟨notT, before⟩ := owedBefore u g _ debtU
    have sameCall := Option.some.inj (calls.owed u g _ before).1
    exact absurd (calls.owedOnce u t g f _ _ before debt sameCall.symm) notT
  · intro b isB
    rw [outcomeSame]
    exact owes.outcome b isB
  · simp [connectCallback]
  · simpa [connectCallback] using owes.allotted
  · rw [answered, if_pos rfl, owes.answers, addressSame, address]
    rfl

/-- `onConnect` takes its call from waiting to announcing. -/
theorem calls_onConnect (inv : Inv s) (calls : CallsInv s) {c : ClientPtr} {k : CallId}
    {lost : Bool} (rest : s.host = .idle) (link : s.links c = .up k false lost) (mtu : UInt16) :
    CallsInv (onConnect s c k lost mtu) := by
  obtain ⟨i, client, connecting, cb, spec⟩ := onConnect_spec inv link mtu
  have quiet : s.host.owed? = none := by rw [rest]; rfl
  have waits := calls.waiting cb connecting
  obtain ⟨born, -, address⟩ := calls.slotOf i k cb
  have isUp := calls.ended c k true (by rw [link]; rfl)
  rw [spec]
  have cbSame : ∀ j, ((Function.update s.slots i { s.slots i with state := .connected }) j).cb =
      (s.slots j).cb := by
    intro j
    rw [Function.update_apply]
    split
    · rename_i here; rw [here]
    · rfl
  refine calls.move (k := k) ⟨born, rfl, fun _ => ⟨rfl, rfl⟩, fun _ _ => rfl, ?_, ?_, ?_,
    fun _ _ => Iff.rfl, fun _ _ => rfl⟩ (fun _ _ inU => ⟨inU, rfl⟩) calls.owed calls.owedOnce
    calls.unissued ?_ ?_ ⟨.announcing, ?_, ?_, waits.task, ?_, ?_,
      fun _ => waits.allotted (by decide), waits.answers⟩
  · intro j k' cbJ
    refine ⟨(cbSame j).symm.trans cbJ, ?_⟩
    simp only [Function.update_apply]
    split
    · rename_i here; rw [here]
    · rfl
  · intro j other
    refine inSlot_update rfl ?_ ?_
    · rw [cb]
      exact fun same => other (Option.some.inj same).symm
    · simp only [cb]
      exact fun same => other (Option.some.inj same).symm
  · intro j other
    refine hostOwes_other other ?_ ?_
    · intro _ _ _ debt
      rw [quiet] at debt
      cases debt
    · intro _ _ _ debt
      exact (owed?_callback.mp debt).1.symm
  · intro _ _ _ debt
    obtain ⟨rfl, rfl, -⟩ := owed?_callback.mp debt
    exact ⟨k, rfl, born, address.symm⟩
  · intro d j b isEnded
    simp only [Function.update_apply] at isEnded
    split at isEnded
    · obtain ⟨rfl, rfl⟩ := Prod.mk.inj (Option.some.inj isEnded)
      exact isUp
    · exact calls.ended d j b isEnded
  · intro live
    constructor
    · rintro ⟨j, cbJ, isLive⟩
      rw [cbSame] at cbJ
      simp only [calls.sameSlot cbJ cb, Function.update_self] at isLive
      exact isLive
    · intro h
      refine ⟨i, (cbSame i).trans cb, ?_⟩
      simp only [Function.update_self]
      exact h
  · intro b
    constructor
    · rintro ⟨a, r, debt, isB⟩
      obtain ⟨-, -, rfl⟩ := owed?_callback.mp debt
      exact congrArg some isB
    · intro h
      exact ⟨_, _, rfl, Option.some.inj h⟩
  · intro b isB
    cases isB
    exact isUp
  · exact ⟨fun h => absurd (waits.returned.mp h) (by decide), fun h => by cases h⟩

/-- A callback that releases the slot of its call and owes it `connected = false`. -/
theorem calls_release (calls : CallsInv s) {c : ClientPtr} {k : CallId} {i : SlotIdx}
    {stage : Stage} (stage' : Stage) (rest : s.host = .idle) (cb : (s.slots i).cb = some k)
    (at_ : At s k stage) (reason : Int32) (noTask : stage.task = false)
    (born' : stage ≠ .refused) (slot' : stage'.slot = none) (host' : stage'.host = some false)
    (task' : stage'.task = false) (refused' : stage' ≠ .refused)
    (outcome : ∀ b, stage'.outcome = some b → (s.history.calls k).outcome = some b)
    (answers : ∀ a, stage'.answers a = stage.answers a) :
    CallsInv { s with
      links := Function.update s.links c .idle
      slots := Function.update s.slots i (s.slots i).reset
      host := .callback (some k) (s.slots i).address ⟨false, 0, reason⟩ } := by
  have quiet : s.host.owed? = none := by rw [rest]; rfl
  obtain ⟨born, -, address⟩ := calls.slotOf i k cb
  refine calls.move (k := k) ⟨born, rfl, fun _ => ⟨rfl, rfl⟩, fun _ _ => rfl, ?_, ?_, ?_,
    fun _ _ => Iff.rfl, fun _ _ => rfl⟩ (fun _ _ inU => ⟨inU, rfl⟩) calls.owed calls.owedOnce
    calls.unissued ?_ ?_ ⟨stage', ?_, ?_, ?_, outcome, ?_, fun _ => at_.allotted born', ?_⟩
  · intro j k' cbJ
    simp only [Function.update_apply] at cbJ ⊢
    split at cbJ
    · cases cbJ
    · rename_i notI
      exact ⟨cbJ, by rw [if_neg notI]⟩
  · intro j other
    refine inSlot_update rfl ?_ (by simp)
    rw [cb]
    exact fun same => other (Option.some.inj same).symm
  · intro j other
    refine hostOwes_other other ?_ ?_
    · intro _ _ _ debt
      rw [quiet] at debt
      cases debt
    · intro _ _ _ debt
      exact (owed?_callback.mp debt).1.symm
  · intro _ _ _ debt
    obtain ⟨rfl, rfl, -⟩ := owed?_callback.mp debt
    exact ⟨k, rfl, born, address.symm⟩
  · intro d j b isEnded
    simp only [Function.update_apply] at isEnded
    split at isEnded
    · cases isEnded
    · exact calls.ended d j b isEnded
  · intro live
    rw [slot']
    constructor
    · rintro ⟨j, cbJ, -⟩
      simp only [Function.update_apply] at cbJ
      split at cbJ
      · cases cbJ
      · rename_i notI
        exact absurd (calls.sameSlot cbJ cb) notI
    · exact fun h => by cases h
  · intro b
    rw [host']
    constructor
    · rintro ⟨a, r, debt, isB⟩
      obtain ⟨-, -, rfl⟩ := owed?_callback.mp debt
      exact congrArg some isB
    · intro h
      exact ⟨_, _, rfl, Option.some.inj h⟩
  · rw [task', ← noTask]
    exact at_.task
  · exact ⟨fun h => absurd (at_.returned.mp h) born', fun h => absurd h refused'⟩
  · rw [answers]
    exact at_.answers

/-- The host task's invocation reaches the call it was copied from. -/
theorem calls_hostCallback (calls : CallsInv s) {cb : Option ConnectCallback} {address : UInt64}
    {r : ConnectionResult} (guard : s.host = .callback cb address r) :
    CallsInv { s with host := .notify, history := s.history.invoke .event cb address r } := by
  obtain ⟨k, rfl, born, rfl⟩ := calls.hostOwed cb address r (by rw [guard]; rfl)
  obtain ⟨stage, at_⟩ := calls.stages k born
  have debt := (at_.host r.connected).mp ⟨_, r, by rw [guard]; rfl, rfl⟩
  have answered : ∀ j, State.answers { s with
      host := .notify
      history := s.history.invoke .event (some k) (s.history.calls k).address r } j =
      s.answers j ++ if k = j then [((s.history.calls k).address, r.connected)] else [] :=
    answers_append (v := ⟨.event, k, (s.history.calls k).address, r⟩) rfl
  -- where the call goes once the debt is paid
  have next : ∃ stage' : Stage, stage'.slot = stage.slot ∧ stage'.host = none ∧
      stage'.task = stage.task ∧ stage'.outcome = stage.outcome ∧
      (stage' = .refused ↔ stage = .refused) ∧
      ∀ a, stage'.answers a = stage.answers a ++ [(a, r.connected)] := by
    cases isConnected : r.connected with
    | true =>
        rw [isConnected] at debt
        have isStage := Stage.eq_announcing debt
        subst isStage
        exact ⟨.linked, rfl, rfl, rfl, rfl, by decide, fun _ => rfl⟩
    | false =>
        rw [isConnected] at debt
        rcases Stage.failing_or_dropping debt with isStage | isStage
        · subst isStage
          exact ⟨.failed, rfl, rfl, rfl, rfl, by decide, fun _ => rfl⟩
        · subst isStage
          exact ⟨.dropped, rfl, rfl, rfl, rfl, by decide, fun _ => rfl⟩
  obtain ⟨stage', slot', host', task', outcome', refused', answers'⟩ := next
  refine calls.move (k := k) ⟨born, rfl, fun _ => ⟨rfl, rfl⟩, fun _ _ => rfl,
    fun i j was => ⟨was, rfl⟩, fun _ _ _ => Iff.rfl, ?_, fun _ _ => Iff.rfl, ?_⟩
    (fun _ _ inU => ⟨inU, rfl⟩) calls.owed calls.owedOnce calls.unissued ?_ calls.ended
    ⟨stage', ?_, ?_, ?_, ?_, ?_, ?_, ?_⟩
  · intro j other
    refine hostOwes_other other ?_ ?_
    · intro _ _ _ debtS
      rw [guard] at debtS
      exact (owed?_callback.mp debtS).1.symm
    · intro _ _ _ debtS
      cases debtS
  · intro j other
    rw [answered, if_neg (fun same => other same.symm), List.append_nil]
  · intro _ _ _ debtS
    cases debtS
  · intro live
    rw [slot']
    exact at_.slot live
  · intro b
    rw [host']
    exact ⟨fun h => absurd h (hostOwes_none rfl k b), fun h => by cases h⟩
  · rw [task']
    exact at_.task
  · intro b
    rw [outcome']
    exact at_.outcome b
  · rw [refused']
    exact at_.returned
  · exact fun h => at_.allotted fun h' => h (refused'.mpr h')
  · rw [answered, if_pos rfl, at_.answers]
    exact (answers' _).symm

theorem Link.ended?_hangUp (link : Link) : link.hangUp.ended? = link.ended? := by
  cases link <;> rfl

theorem calls_disconnectLocked (calls : CallsInv s) {t : TaskId} (idle : s.tasks t = .idle)
    (address : UInt64) : CallsInv (disconnectLocked s t address) := by
  unfold disconnectLocked
  cases found : s.slots.findByAddrLocked address with
  | none => exact calls
  | some i =>
      by_cases isConnected : (s.slots i).state = .connected
      · simp only [isConnected, if_true]
        -- Connected and Disconnecting both have a link; nothing else moves
        have slot : ∀ {α : Type} (view : Slot → α),
            view { s.slots i with state := .disconnecting } = view (s.slots i) → ∀ j,
            view (Function.update s.slots i { s.slots i with state := .disconnecting } j) =
              view (s.slots j) := by
          intro α view same j
          by_cases here : j = i
          · subst here
            rw [Function.update_self, same]
          · rw [Function.update_of_ne here]
        have task : ∀ {α : Type} (view : TaskPc → α), (∀ c, view (.disconnectCall c) = view .idle) →
            ∀ pc, (pc = .idle ∨ ∃ c, pc = .disconnectCall c) →
            ∀ u, view (Function.update s.tasks t pc u) = view (s.tasks u) := by
          intro α view same pc next
          apply view_update view
          rw [idle]
          rcases next with rfl | ⟨c, rfl⟩
          · rfl
          · exact same c
        refine calls.congr (slot Slot.cb rfl) (slot Slot.address rfl) ?_ rfl
          (task TaskPc.call? (fun _ => rfl) _ ?_) (task TaskPc.owed? (fun _ => rfl) _ ?_)
          (task TaskPc.unissued? (fun _ => rfl) _ ?_) rfl fun _ => rfl
        · exact slot (fun slot => slot.state.live?) (by rw [isConnected]; rfl)
        all_goals split <;> simp
      · simp only [isConnected, if_false]
        exact calls

theorem calls_step (inv : Inv s) (calls : CallsInv s) (a : Action) (guard : Guard s a) :
    CallsInv (effect s a) := by
  cases a with
  | connectLocked t address addressType =>
      simp only [effect, connectLocked]
      split
      · exact calls_refuse inv calls address addressType
      · split
        · exact calls_refuse inv calls address addressType
        · rename_i alloc
          exact calls_claim inv calls guard (SlotTable.allocLocked_some alloc) address addressType
  | connectNotify t f | connectStopScan t f | releaseNotify t f cb =>
      have pc : s.tasks t = _ := guard
      refine calls.congr (fun _ => rfl) (fun _ => rfl) (fun _ => rfl) rfl
        (view_update TaskPc.call? ?_) (view_update TaskPc.owed? ?_)
        (view_update TaskPc.unissued? ?_) rfl fun _ => rfl
      · rw [pc]; rfl
      · rw [pc]; rfl
      · rw [pc]; rfl
  | connectIssue t f issued =>
      cases issued with
      | true => exact calls_connectIssue_issued inv calls guard
      | false => exact calls_connectIssue_refused inv calls guard
  | connectUnissued t f => exact calls_connectUnissued inv calls guard
  | connectCallback t f cb => exact calls_connectCallback inv calls guard
  | disconnectLocked t address => exact calls_disconnectLocked calls guard address
  | disconnectCall t c =>
      have pc : s.tasks t = _ := guard
      refine calls.congr (fun _ => rfl) (fun _ => rfl) (fun _ => rfl) rfl
        (view_update TaskPc.call? ?_) (view_update TaskPc.owed? ?_)
        (view_update TaskPc.unissued? ?_) rfl ?_
      · rw [pc]; rfl
      · rw [pc]; rfl
      · rw [pc]; rfl
      · intro d
        simp only [effect, Function.update_apply]
        split
        · rename_i here
          rw [here, Link.ended?_hangUp]
        · rfl
  | established c k => exact calls_outcome inv calls guard rfl
  | attemptFailed c k => exact calls_outcome inv calls guard rfl
  | linkLost c k announced =>
      have link : s.links c = _ := guard
      refine calls.congr (fun _ => rfl) (fun _ => rfl) (fun _ => rfl) rfl (fun _ => rfl)
        (fun _ => rfl) (fun _ => rfl) rfl ?_
      intro d
      simp only [effect, Function.update_apply]
      split
      · rename_i here
        rw [here, link]
        rfl
      · rfl
  | onConnect c k lost mtu => exact calls_onConnect inv calls guard.1 guard.2 mtu
  | onConnectFail c k reason =>
      obtain ⟨i, -, connecting, cb, spec⟩ := onConnectFail_spec inv guard.2 reason
      have noLink := calls.ended c k false (by rw [guard.2]; rfl)
      rw [effect, spec]
      refine calls_release calls .failing guard.1 cb (calls.waiting cb connecting) reason rfl
        (by decide) rfl rfl rfl (by decide) ?_ fun _ => rfl
      intro b isB
      cases isB
      exact noLink
  | onDisconnect c k reason =>
      obtain ⟨i, -, live, cb, spec⟩ := onDisconnect_spec inv guard.2 reason
      have link := calls.ended c k true (by rw [guard.2]; rfl)
      -- the host task is at rest, so the invocation of `onConnect` is done
      have linked : At s k .linked := by
        obtain ⟨stage, at_⟩ := calls.stages k (calls.slotOf i k cb).1
        have isLive : (s.slots i).state.live? = some true := by
          rcases live with st | st <;> rw [st] <;> rfl
        have quiet : stage.host = none := by
          cases debt : stage.host with
          | none => rfl
          | some b =>
              have owes := (at_.host b).mpr debt
              exact absurd owes (hostOwes_none (by rw [guard.1]; rfl) k b)
        exact Stage.eq_linked ((at_.slot true).mp ⟨i, cb, isLive⟩) quiet ▸ at_
      rw [effect, spec]
      refine calls_release calls .dropping guard.1 cb linked reason rfl (by decide) rfl
        rfl rfl (by decide) ?_ fun _ => rfl
      intro b isB
      cases isB
      exact link
  | hostCallback cb address r => exact calls_hostCallback calls guard
  | hostNotify | hostResume =>
      refine calls.congr (fun _ => rfl) (fun _ => rfl) (fun _ => rfl) rfl (fun _ => rfl)
        (fun _ => rfl) (fun _ => rfl) ?_ fun _ => rfl
      rw [show s.host = _ from guard]
      rfl

end

theorem calls_reachable {s : State} (path : system.Reachable s) : CallsInv s :=
  path.invariant_with (fun _ => inv_reachable) callsInv_init
    fun _ a inv calls guard => calls_step inv calls a guard

/-! ## What a callback hears -/

/-- NimBLE and the code are done with a call that returned true: it has no
attempt, no link and no undelivered invocation. -/
def Ended (s : State) (k : CallId) : Prop :=
  (s.history.calls k).returned = some true ∧ (∀ c, (s.links c).call? ≠ some k) ∧
    ∀ b, ¬ HostOwes s k b

theorem At.answers_cases {s : State} {k : CallId} {stage : Stage} (at_ : At s k stage) :
    s.answers k = [] ∨
      ∃ b, (s.history.calls k).outcome = some b ∧
        (s.answers k = [((s.history.calls k).address, b)] ∨
          (b = true ∧ s.answers k =
            [((s.history.calls k).address, true), ((s.history.calls k).address, false)])) := by
  have answers := at_.answers
  have outcome := at_.outcome
  cases stage with
  | refused | waiting | announcing | unissued | failing => exact .inl answers
  | linked | dropping => exact .inr ⟨true, outcome true rfl, .inl answers⟩
  | failed => exact .inr ⟨false, outcome false rfl, .inl answers⟩
  | dropped => exact .inr ⟨true, outcome true rfl, .inr ⟨rfl, answers⟩⟩

/-- A slot in use holds the callback of a call that is on its way or has a link. -/
theorem Inv.holder {s : State} (inv : Inv s) {i : SlotIdx} (used : (s.slots i).state ≠ .free) :
    ∃ k, (s.slots i).cb = some k ∧
      ((∃ c, (s.links c).call? = some k) ∨ ∃ t f, (s.tasks t).frame? = some f ∧ f.call = k) := by
  obtain ⟨c, client, why⟩ := inv.backed i used
  rcases why with busy | ⟨t, f, held, atI⟩
  · obtain ⟨j, clientJ, fits⟩ := inv.linked c busy
    rw [inv.ownClient j i c clientJ client] at fits
    cases link : s.links c with
    | idle => exact absurd link busy
    | attempting k | failed k | up k announced lost =>
        have of : (s.links c).call? = some k := by rw [link]; rfl
        exact ⟨k, fits.cb of, .inl ⟨c, of⟩⟩
  · exact ⟨f.call, atI ▸ (inv.claims t f held).cb, .inr ⟨t, f, held, rfl⟩⟩

/-- A slot in use by a call that returned has its attempt or its link. -/
theorem Inv.link_of_returned {s : State} (inv : Inv s) (calls : CallsInv s) {k : CallId}
    {live : Bool} (returned : (s.history.calls k).returned = some true) (inSlot : InSlot s k live) :
    ∃ c, (s.links c).call? = some k := by
  obtain ⟨i, cb, isLive⟩ := inSlot
  have used : (s.slots i).state ≠ .free := by
    intro free
    rw [SlotState.live?_eq_none.mpr free] at isLive
    cases isLive
  obtain ⟨k', cb', why⟩ := inv.holder used
  have same : k' = k := Option.some.inj (cb'.symm.trans cb)
  subst same
  rcases why with onLink | ⟨t, f, held, rfl⟩
  · exact onLink
  · have running := (calls.running t _ (TaskPc.call?_of_frame? held)).2
    rw [returned] at running
    cases running

theorem At.answers_of_ended {s : State} (inv : Inv s) (calls : CallsInv s) {k : CallId}
    {stage : Stage} (at_ : At s k stage) (ended : Ended s k) :
    ∃ b, (s.history.calls k).outcome = some b ∧ s.answers k =
      if b then [((s.history.calls k).address, true), ((s.history.calls k).address, false)]
      else [((s.history.calls k).address, false)] := by
  obtain ⟨returned, noLink, noDebt⟩ := ended
  have noSlot : ∀ live, stage.slot ≠ some live := by
    intro live slot
    obtain ⟨c, of⟩ := inv.link_of_returned calls returned ((at_.slot live).mpr slot)
    exact noLink c of
  have noHost : ∀ b, stage.host ≠ some b := fun b host => noDebt b ((at_.host b).mpr host)
  have answers := at_.answers
  cases stage with
  | refused =>
      rw [at_.returned.mpr rfl] at returned
      cases returned
  | waiting => exact absurd rfl (noSlot false)
  | announcing | linked => exact absurd rfl (noSlot true)
  | unissued =>
      obtain ⟨t, f, debt⟩ := at_.task.mpr rfl
      have own := Option.some.inj (calls.owed t f _ debt).1
      have running := (calls.running t _ (TaskPc.call?_of_owed? debt)).2
      rw [← own, returned] at running
      cases running
  | failing | dropping => exact absurd rfl (noHost false)
  | failed => exact ⟨false, at_.outcome false rfl, answers⟩
  | dropped => exact ⟨true, at_.outcome true rfl, answers⟩

/-- A call that has heard `connected = false` has left its slot. -/
theorem At.slot_released {s : State} (inv : Inv s) (calls : CallsInv s) {k : CallId}
    {stage : Stage} (at_ : At s k stage)
    (heard : ((s.history.calls k).address, false) ∈ s.answers k) :
    ∃ i, (s.history.calls k).slot = some i ∧
      ((s.slots i).state = .free ∨ ∃ k', k < k' ∧ (s.slots i).cb = some k') := by
  rw [at_.answers] at heard
  have isOver : stage = .failed ∨ stage = .dropped := by
    cases stage <;> simp [Stage.answers] at heard ⊢
  have noSlot : stage.slot = none := by rcases isOver with rfl | rfl <;> rfl
  obtain ⟨i, slot⟩ := at_.allotted (by rcases isOver with rfl | rfl <;> decide)
  refine ⟨i, slot, ?_⟩
  by_cases free : (s.slots i).state = .free
  · exact .inl free
  · obtain ⟨k', cb, -⟩ := inv.holder free
    have le := calls.latest i k k' slot cb
    refine .inr ⟨k', ?_, cb⟩
    rcases Nat.lt_or_ge k k' with lt | ge
    · exact lt
    · have same : k' = k := Nat.le_antisymm ge le
      subst same
      cases isLive : (s.slots i).state.live? with
      | none => exact absurd (SlotState.live?_eq_none.mp isLive) free
      | some live =>
          have inSlot := (at_.slot live).mp ⟨i, cb, isLive⟩
          rw [noSlot] at inSlot
          cases inSlot

/-- **Callback discipline.** In every reachable state, for every `connect` made
so far: a refused call's callback was never invoked; any other's has heard
nothing yet, or the outcome of its attempt, or a link and then its drop, each
time with the address of the call. Once the attempt and its link have ended and
their events are processed it has heard exactly one outcome, and a drop exactly
if the outcome was a link. From the invocation with `connected = false` on, the
slot of the call is Free or belongs to a later call. -/
theorem callback_discipline (s : State) (path : system.Reachable s) (k : CallId)
    (made : k < s.history.nextCall) :
    ((s.history.calls k).returned = some false → s.answers k = []) ∧
    (s.answers k = [] ∨
      ∃ b, (s.history.calls k).outcome = some b ∧
        (s.answers k = [((s.history.calls k).address, b)] ∨
          (b = true ∧ s.answers k =
            [((s.history.calls k).address, true), ((s.history.calls k).address, false)]))) ∧
    (Ended s k →
      ∃ b, (s.history.calls k).outcome = some b ∧ s.answers k =
        if b then [((s.history.calls k).address, true), ((s.history.calls k).address, false)]
        else [((s.history.calls k).address, false)]) ∧
    (((s.history.calls k).address, false) ∈ s.answers k →
      ∃ i, (s.history.calls k).slot = some i ∧
        ((s.slots i).state = .free ∨ ∃ k', k < k' ∧ (s.slots i).cb = some k')) := by
  have inv := inv_reachable path
  have calls := calls_reachable path
  obtain ⟨stage, at_⟩ := calls.stages k made
  refine ⟨?_, at_.answers_cases, at_.answers_of_ended inv calls, at_.slot_released inv calls⟩
  intro refused
  have isRefused := at_.returned.mp refused
  subst isRefused
  exact at_.answers

/-- A link that comes up and drops again, while a second call for its address is refused. -/
def dropSchedule : List Action :=
  [.connectLocked 0 7 0, .connectNotify 0 ⟨0, 7, 0, slotNo 0, 0⟩, .connectLocked 1 7 0,
   .connectStopScan 0 ⟨0, 7, 0, slotNo 0, 0⟩, .connectIssue 0 ⟨0, 7, 0, slotNo 0, 0⟩ true,
   .established 0 0, .onConnect 0 0 false 247, .linkLost 0 0 true, .hostCallback (some 0) 7 ⟨true, 247, 0⟩,
   .hostNotify, .hostResume, .onDisconnect 0 0 8, .hostCallback (some 0) 7 ⟨false, 0, 8⟩]

theorem callback_discipline_drop :
    ∃ s, system.Reachable s ∧ 0 < s.history.nextCall ∧ Ended s 0 ∧
      s.answers 0 = [(7, true), (7, false)] ∧ s.answers 1 = [] ∧
      ∃ i, (s.history.calls 0).slot = some i ∧
        ((s.slots i).state = .free ∨ ∃ k', 0 < k' ∧ (s.slots i).cb = some k') := by
  have path := system.reachable_final dropSchedule
  have first := callback_discipline _ path 0 (by decide)
  have second := callback_discipline _ path 1 (by decide)
  have ended : Ended (system.final dropSchedule) 0 := by
    refine ⟨rfl, ?_, fun b => hostOwes_none rfl 0 b⟩
    intro c
    cases c with
    | zero => decide
    | succ c => exact nofun
  exact ⟨_, path, by decide, ended, by decide, second.1 rfl, first.2.2.2 (by decide)⟩

end NimbleProxy.Backend.Connection
