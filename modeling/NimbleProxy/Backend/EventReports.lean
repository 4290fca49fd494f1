/-
# Backend.EventReports -- what the NimBLE callbacks reported, and the live slots

A slot becomes live (Connected or Disconnecting) in `onConnect` and ceases to be
in `onDisconnect`, and both report it, so that for every address the last report
of a NimBLE callback says whether a live slot has that address
(`reported_reachable`). The reports include the one the host task has decided on
and not yet delivered.
-/
import NimbleProxy.Backend.DisconnectAnswer

namespace NimbleProxy.Backend.Connection

open NimbleProxy.Theory

set_option autoImplicit false

/-! ## Live slots -/

/-- A Connected or Disconnecting slot has this address. -/
def LiveAt (slots : SlotTable) (address : UInt64) : Prop :=
  ∃ i, (slots i).state.live? = some true ∧ (slots i).address = address

/-- The action is a NimBLE callback. -/
def Action.isEvent : Action → Bool
  | .onConnect .. | .onConnectFail .. | .onDisconnect .. => true
  | _ => false

theorem liveAt_congr {slots slots' : SlotTable} {address : UInt64}
    (same : ∀ i, ((slots' i).state.live? = some true ∧ (slots' i).address = address) ↔
      ((slots i).state.live? = some true ∧ (slots i).address = address)) :
    LiveAt slots' address ↔ LiveAt slots address :=
  exists_congr same

section

variable {s : State} {a : Action}

/-- Only a NimBLE callback starts or ends a live slot. -/
theorem liveAt_step (inv : Inv s) (guard : Guard s a) (silent : a.isEvent = false)
    (address : UInt64) : LiveAt (effect s a).slots address ↔ LiveAt s.slots address := by
  apply liveAt_congr
  intro i
  have step := slots_step s a i
  generalize (effect s a).slots i = after at step ⊢
  cases step with
  | same => exact Iff.rfl
  | claimed t ad adType isClaim free connecting =>
      simp [free, connecting, SlotState.live?]
  | unissued t f isUnissued atI =>
      subst isUnissued
      have claim := inv.claims t f (by rw [show s.tasks t = _ from guard]; rfl)
      have connecting : (s.slots i).state = .connecting := atI ▸ claim.state
      simp [connecting, SlotState.live?]
  | marked t ad isMark found isConnected => simp [isConnected, SlotState.live?]
  | up c k lost mtu isUp connecting =>
      subst isUp
      cases silent
  | ended c k reason isEnd => rcases isEnd with rfl | rfl <;> cases silent

/-- The slot `i` with this address goes live or is reset; the other addresses keep theirs. -/
theorem liveAt_update (distinct : ∀ i j, (s.slots i).state ≠ .free → (s.slots j).state ≠ .free →
      (s.slots i).address = (s.slots j).address → i = j)
    {i : SlotIdx} {slot : Slot} {connected : Bool} (used : (s.slots i).state ≠ .free)
    (live : slot.state.live? = some true ↔ connected = true)
    (sameAddress : connected = true → slot.address = (s.slots i).address) (address : UInt64) :
    LiveAt (Function.update s.slots i slot) address ↔
      if address = (s.slots i).address then connected = true else LiveAt s.slots address := by
  split
  · rename_i here
    subst here
    constructor
    · rintro ⟨j, isLive, sameJ⟩
      rw [Function.update_apply] at isLive sameJ
      split at isLive
      · exact live.mp isLive
      · rename_i other
        rw [if_neg other] at sameJ
        refine absurd (distinct j i ?_ used sameJ) other
        intro free
        rw [free] at isLive
        cases isLive
    · intro isConnected
      exact ⟨i, by rw [Function.update_self]; exact live.mpr isConnected,
        by rw [Function.update_self]; exact sameAddress isConnected⟩
  · rename_i elsewhere
    apply liveAt_congr
    intro j
    rw [Function.update_apply]
    split
    · rename_i here
      subst here
      constructor
      · rintro ⟨isLive, sameJ⟩
        exact absurd (sameJ.symm.trans (sameAddress (live.mp isLive))) elsewhere
      · rintro ⟨-, sameJ⟩
        exact absurd sameJ.symm elsewhere
    · exact Iff.rfl

end

/-! ## Reports -/

/-- The callback the host task has decided on and not yet made. -/
def HostPc.owed : HostPc → List Invocation
  | .callback (some cb) address r => [⟨.event, cb, address, r⟩]
  | _ => []

def Invocation.isEvent (v : Invocation) : Bool :=
  decide (v.origin = .event)

/-- What the NimBLE callbacks have reported so far, the one being delivered included. -/
def reports (s : State) : List Invocation :=
  s.history.trace.filter Invocation.isEvent ++ s.host.owed

def lastReport (reported : List Invocation) (address : UInt64) : Option Invocation :=
  reported.reverse.find? fun v => decide (v.address = address)

theorem lastReport_append (reported : List Invocation) (v : Invocation) (address : UInt64) :
    lastReport (reported ++ [v]) address =
      if v.address = address then some v else lastReport reported address := by
  by_cases here : v.address = address <;> simp [lastReport, here]

/-- The last report for an address says connected. -/
def SaysConnected (reported : List Invocation) (address : UInt64) : Prop :=
  ∃ v, lastReport reported address = some v ∧ v.result.connected = true

/-- What a step adds to the trace. -/
theorem trace_step (s : State) (a : Action) :
    (effect s a).history.trace = s.history.trace ++
      match a with
      | .hostCallback (some cb) address r => [⟨.event, cb, address, r⟩]
      | .connectCallback _ f (some cb) => [⟨.notIssued, cb, f.address, ⟨false, 0, -1⟩⟩]
      | _ => [] := by
  cases a with
  | hostCallback cb address r => cases cb <;> simp [effect, History.invoke]
  | connectCallback t f cb => cases cb <;> simp [effect, connectCallback, History.invoke]
  | connectLocked t address addressType =>
      simp only [effect, connectLocked, List.append_nil]
      split
      · rfl
      · split <;> rfl
  | connectIssue t f issued => cases issued <;> exact (List.append_nil _).symm
  | disconnectLocked t address =>
      simp only [effect, disconnectLocked, List.append_nil]
      split
      · rfl
      · split <;> rfl
  | onConnect c k lost mtu =>
      simp only [effect, onConnect, List.append_nil]
      split
      · split <;> rfl
      · rfl
  | onConnectFail c k reason =>
      simp only [effect, onConnectFail, List.append_nil]
      split <;> rfl
  | onDisconnect c k reason =>
      simp only [effect, onDisconnect, List.append_nil]
      split <;> rfl
  | connectNotify t f | connectStopScan t f | connectUnissued t f | releaseNotify t f cb
  | disconnectCall t c | established c k | attemptFailed c k | linkLost c k announced
  | hostNotify | hostResume => exact (List.append_nil _).symm

section

variable {s : State} {a : Action}

/-- Delivering a report does not change what was reported, and only a NimBLE callback
reports. -/
theorem reports_silent (guard : Guard s a) (silent : a.isEvent = false) :
    reports (effect s a) = reports s := by
  unfold reports
  rw [trace_step]
  cases a with
  | hostCallback cb address r =>
      rw [show s.host = _ from guard]
      cases cb <;> simp [effect, HostPc.owed, Invocation.isEvent]
  | connectCallback t f cb => cases cb <;> simp [effect, connectCallback, Invocation.isEvent]
  | hostNotify | hostResume =>
      rw [show s.host = _ from guard]
      simp [effect, HostPc.owed]
  | onConnect c k lost mtu | onConnectFail c k reason | onDisconnect c k reason => cases silent
  | connectLocked t address addressType =>
      simp only [effect, connectLocked, List.append_nil]
      split
      · rfl
      · split <;> rfl
  | connectIssue t f issued => cases issued <;> simp [effect, connectIssue]
  | disconnectLocked t address =>
      simp only [effect, disconnectLocked, List.append_nil]
      split
      · rfl
      · split <;> rfl
  | connectNotify t f | connectStopScan t f | connectUnissued t f | releaseNotify t f cb
  | disconnectCall t c | established c k | attemptFailed c k | linkLost c k announced =>
      simp [effect, connectUnissued]

/-- A NimBLE callback reports what it does to the slot of its client. -/
theorem reports_event (inv : Inv s) (guard : Guard s a) (event : a.isEvent = true) :
    ∃ v, reports (effect s a) = reports s ++ [v] ∧ ∀ address,
      LiveAt (effect s a).slots address ↔
        if address = v.address then v.result.connected = true else LiveAt s.slots address := by
  cases a with
  | onConnect c k lost mtu =>
      obtain ⟨i, -, connecting, -, spec⟩ := onConnect_spec inv guard.2 mtu
      refine ⟨⟨.event, k, (s.slots i).address, ⟨true, mtu, 0⟩⟩, ?_, ?_⟩
      · simp [reports, effect, spec, guard.1, HostPc.owed]
      · rw [effect, spec]
        exact liveAt_update inv.distinct (by rw [connecting]; decide) (by simp [SlotState.live?])
          fun _ => rfl
  | onConnectFail c k reason =>
      obtain ⟨i, -, connecting, -, spec⟩ := onConnectFail_spec inv guard.2 reason
      refine ⟨⟨.event, k, (s.slots i).address, ⟨false, 0, reason⟩⟩, ?_, ?_⟩
      · simp [reports, effect, spec, guard.1, HostPc.owed]
      · rw [effect, spec]
        exact liveAt_update inv.distinct (by rw [connecting]; decide) (by simp [SlotState.live?])
          (by simp)
  | onDisconnect c k reason =>
      obtain ⟨i, -, live, -, spec⟩ := onDisconnect_spec inv guard.2 reason
      refine ⟨⟨.event, k, (s.slots i).address, ⟨false, 0, reason⟩⟩, ?_, ?_⟩
      · simp [reports, effect, spec, guard.1, HostPc.owed]
      · rw [effect, spec]
        refine liveAt_update inv.distinct ?_ (by simp [SlotState.live?]) (by simp)
        rcases live with isConnected | marked
        · rw [isConnected]; decide
        · rw [marked]; decide
  | connectLocked t address addressType | connectNotify t f | connectStopScan t f
  | connectIssue t f issued | connectUnissued t f | releaseNotify t f cb | connectCallback t f cb
  | disconnectLocked t address | disconnectCall t c | established c k | attemptFailed c k
  | linkLost c k announced | hostCallback cb address r | hostNotify | hostResume => cases event

/-- For every address the last report says whether a live slot has it. -/
def Reported (s : State) : Prop :=
  ∀ address, SaysConnected (reports s) address ↔ LiveAt s.slots address

theorem reported_step (inv : Inv s) (reported : Reported s) (guard : Guard s a) :
    Reported (effect s a) := by
  intro address
  cases event : a.isEvent with
  | false =>
      rw [reports_silent guard event, liveAt_step inv guard event]
      exact reported address
  | true =>
      obtain ⟨v, added, live⟩ := reports_event inv guard event
      rw [live address, added]
      unfold SaysConnected
      rw [lastReport_append]
      by_cases here : v.address = address
      · simp [here]
      · rw [if_neg here, if_neg (Ne.symm here)]
        exact reported address

end

theorem reported_reachable {s : State} (path : system.Reachable s) : Reported s := by
  refine path.invariant_with (fun _ => inv_reachable) ?_
    fun _ _ inv reported guard => reported_step inv reported guard
  intro address
  constructor
  · rintro ⟨v, none_, -⟩
    cases none_
  · rintro ⟨i, free, -⟩
    cases free

/-! ## Nothing under way -/

/-- A slot that is Disconnecting has a NimBLE event or a task to end it. -/
theorem not_disconnecting {s : State} (path : system.Reachable s)
    (idle : ∀ t, s.tasks t = .idle) (quiet : ∀ c, ¬ (s.links c).Pending) (i : SlotIdx) :
    (s.slots i).state ≠ .disconnecting := by
  intro marked
  have inv := inv_reachable path
  obtain ⟨c, client, why⟩ := inv.backed i (by rw [marked]; decide)
  rcases why with busy | ⟨t, f, held, -⟩
  · obtain ⟨j, clientJ, fits⟩ := inv.linked c busy
    rw [inv.ownClient j i c clientJ client] at fits
    have notPending := quiet c
    cases link : s.links c with
    | idle => exact busy link
    | attempting k | failed k => exact notPending (by rw [link]; trivial)
    | up k announced lost =>
        rw [link] at notPending
        simp only [Link.Pending, not_or, Bool.not_eq_true, Bool.not_eq_false] at notPending
        obtain ⟨rfl, rfl⟩ := notPending
        obtain ⟨t, hanging⟩ := hung_reachable path i c k client marked link
        rw [idle t] at hanging
        cases hanging
  · rw [idle t] at held
    cases held

theorem liveAt_iff_connected {s : State} (path : system.Reachable s)
    (idle : ∀ t, s.tasks t = .idle) (quiet : ∀ c, ¬ (s.links c).Pending) (address : UInt64) :
    LiveAt s.slots address ↔ ∃ i, (s.slots i).state = .connected ∧ (s.slots i).address = address := by
  apply exists_congr
  intro i
  have unmarked := not_disconnecting path idle quiet i
  cases state : (s.slots i).state <;> simp_all [SlotState.live?]

end NimbleProxy.Backend.Connection
