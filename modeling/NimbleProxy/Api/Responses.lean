/-
# Api.Responses -- connection responses against the slot table

A client learns the state of a device from `BluetoothDeviceConnectionResponse`s.
Those that come from a NimBLE callback follow the slot table: the last one for an
address says connected exactly if the table has a Connected slot for it, as soon
as nothing is under way (`event_response_agrees`). The host task makes its
callbacks one after the other, so the order in the log is that of the events.

The other responses say nothing of the kind. A CONNECT for a device that is
connected already is answered by connected=false to every client, an attempt that
could not be issued is reported after its slot was given back, and a response is
not broadcast at all while no client is counted (`last_response_disagrees`).
-/
import NimbleProxy.Api.Devices
import NimbleProxy.Backend.EventReports

namespace NimbleProxy.Api.Devices

open NimbleProxy.Theory NimbleProxy.Backend NimbleProxy.Api.Server

set_option autoImplicit false

/-! ## The log and the trace of callbacks -/

/-- The response was produced by a NimBLE callback. -/
def Response.isEvent (r : Response) : Bool :=
  decide (r.producer = .callback .event)

def Sent.isEvent (e : Sent) : Bool :=
  e.response.isEvent

/-- The last entry of the log of a kind and for an address. -/
def lastSent (kind : Sent → Bool) (log : List Sent) (address : UInt64) : Option Sent :=
  (log.filter kind).reverse.find? fun e => decide (e.response.address = address)

/-- The response that an invocation of `on_connection_state` makes. -/
def responseOf (v : Connection.Invocation) : Response :=
  onConnectionState v.origin v.address v.result

/-- The responses of the NimBLE callbacks, the one the host task is sending included. -/
def eventResponses (s : State) : List Response :=
  (s.log.filter Sent.isEvent).map Sent.response ++ s.hostSend.toList

/-- The log has what the NimBLE callbacks reported, in order. -/
structure LogInv (s : State) : Prop where
  events : eventResponses s =
    (s.backend.history.trace.filter Connection.Invocation.isEvent).map responseOf
  host : ∀ r, s.hostSend = some r → r.isEvent = true
  tasks : ∀ c r, s.devices c = .sending r → r.isEvent = false

section

variable {s s' : State}

/-- A step that produces no response of a NimBLE callback. -/
theorem LogInv.unrelated (inv : LogInv s) (added : List Sent)
    (trace : (s'.backend.history.trace.filter Connection.Invocation.isEvent) =
      s.backend.history.trace.filter Connection.Invocation.isEvent)
    (log : s'.log = s.log ++ added) (foreign : ∀ e ∈ added, e.isEvent = false)
    (hostSend : s'.hostSend = s.hostSend)
    (devices : ∀ c r, s'.devices c = .sending r → s.devices c = .sending r ∨ r.isEvent = false) :
    LogInv s' := by
  have dropped : added.filter Sent.isEvent = [] := by
    simpa [List.filter_eq_nil_iff] using foreign
  refine ⟨?_, ?_, ?_⟩
  · rw [trace, ← inv.events]
    unfold eventResponses
    rw [log, hostSend, List.filter_append, dropped, List.append_nil]
  · rw [hostSend]
    exact inv.host
  · intro c r sending
    rcases devices c r sending with before | foreignR
    · exact inv.tasks c r before
    · exact foreignR

/-- A device that goes anywhere but into a broadcast. -/
theorem sending_setDevice {c : ConnId} {device : DevicePc} (notSending : ∀ r, device ≠ .sending r)
    (d : ConnId) (r : Response) (sending : (s.setDevice c device).devices d = .sending r) :
    s.devices d = .sending r ∨ r.isEvent = false := by
  simp only [State.setDevice, Function.update_apply] at sending
  split at sending
  · exact absurd sending (notSending r)
  · exact .inl sending

/-- A connection task hands over a response of its own. -/
theorem LogInv.sendAsync (inv : LogInv s) (c : ConnId) (r : Response) (foreign : r.isEvent = false) :
    LogInv (sendAsync s c r) := by
  unfold Devices.sendAsync
  split
  · refine inv.unrelated [⟨r, false⟩] rfl rfl ?_ rfl (sending_setDevice (by simp))
    simpa [Sent.isEvent] using foreign
  · refine inv.unrelated [] rfl (List.append_nil _).symm (by simp) rfl ?_
    intro d r' sending
    simp only [State.setDevice, Function.update_apply] at sending
    split at sending
    · cases sending
      exact .inr foreign
    · exact .inl sending

/-- A backend step whose callbacks are those of `trace_step`. -/
theorem log_backend (inv : LogInv s) (a : Connection.Action) (proceeds : Proceeds s a) :
    LogInv (effect s (.backend a)) := by
  have trace := Connection.trace_step s.backend a
  -- a step that calls nothing back
  have silent : (Connection.effect s.backend a).history.trace = s.backend.history.trace →
      deliver s a = s → LogInv (effect s (.backend a)) := by
    intro same nothing
    refine inv.unrelated [] ?_ ?_ (by simp) ?_ ?_
    · simp only [effect, same]
    · simp [effect, nothing]
    · simp [effect, nothing]
    · intro c r sending
      simp only [effect, nothing] at sending
      exact .inl sending
  cases a with
  | hostCallback cb address r =>
      cases cb with
      | none => exact silent (by simpa using trace) rfl
      | some cb =>
          have free : s.hostSend = none := proceeds
          have before := inv.events
          simp only [eventResponses, free, Option.toList_none, List.append_nil] at before
          refine ⟨?_, ?_, ?_⟩
          · simp only [effect, deliver, hostSendAsync, eventResponses]
            rw [trace, List.filter_append, List.map_append, ← before]
            split <;> simp [free, Sent.isEvent, Response.isEvent, onConnectionState, responseOf,
              Connection.Invocation.isEvent]
          · intro r'
            simp only [effect, deliver, hostSendAsync]
            split
            · exact inv.host r'
            · rintro ⟨rfl⟩
              rfl
          · intro c r'
            simp only [effect, deliver, hostSendAsync_devices]
            exact inv.tasks c r'
  | connectCallback t f cb =>
      cases cb with
      | none => exact silent (by simpa using trace) rfl
      | some cb =>
          have handed := inv.sendAsync t (onConnectionState .notIssued f.address ⟨false, 0, -1⟩) rfl
          refine ⟨?_, ?_, handed.tasks⟩
          · have after := handed.events
            rw [sendAsync_backend] at after
            simp only [effect, deliver]
            rw [trace, List.filter_append, List.map_append]
            simpa [eventResponses, Connection.Invocation.isEvent] using after
          · exact handed.host
  | connectLocked t address addressType | connectNotify t f | connectStopScan t f
  | connectIssue t f issued | connectUnissued t f | releaseNotify t f cb
  | disconnectLocked t address | disconnectCall t c | established c k | attemptFailed c k
  | linkLost c k announced | onConnect c k lost mtu | onConnectFail c k reason
  | onDisconnect c k reason | hostNotify | hostResume =>
      exact silent (by simpa using trace) rfl

theorem log_step (inv : LogInv s) (a : Action) (guard : Guard s a) : LogInv (effect s a) := by
  cases a with
  | server a =>
      have idle : ∀ c d r, (s.setDevice c .idle).devices d = .sending r →
          s.devices d = .sending r ∨ r.isEvent = false :=
        fun c => sending_setDevice (by simp)
      cases a <;>
        exact inv.unrelated [] rfl (List.append_nil _).symm (by simp) rfl
          (by first | exact fun _ _ => .inl | exact idle _)
  | backend a => exact log_backend inv a guard.2
  | request c req =>
      rcases handleDeviceRequest_cases s c req with same | ⟨address, addressType, next⟩ |
        ⟨address, next⟩
      · rw [effect, same]
        exact inv
      · rw [effect, next]
        refine inv.unrelated [] ?_ (List.append_nil _).symm (by simp) rfl (sending_setDevice ?_)
        · simp only [startConnect]
          rw [Connection.trace_step, List.append_nil]
        · intro r
          split <;> simp
      · rw [effect, next]
        refine inv.unrelated [] ?_ (List.append_nil _).symm (by simp) rfl fun _ _ => .inl
        rw [Connection.trace_step, List.append_nil]
  | refuse c address => exact inv.sendAsync c _ rfl
  | broadcast c r =>
      have foreign := inv.tasks c r guard
      refine inv.unrelated [⟨r, true⟩] rfl rfl ?_ rfl (sending_setDevice (by simp))
      simpa [Sent.isEvent] using foreign
  | hostBroadcast r =>
      have isSome : s.hostSend = some r := guard
      have event := inv.host r isSome
      refine ⟨?_, ?_, inv.tasks⟩
      · have before := inv.events
        simp only [eventResponses, isSome] at before
        simp only [effect, eventResponses]
        rw [← before]
        simp [Sent.isEvent, event]
      · intro r' nothing
        cases nothing
  | sweepStart c | readAddress c i =>
      exact inv.unrelated [] rfl (List.append_nil _).symm (by simp) rfl (sending_setDevice (by simp))
  | sweepState c i =>
      refine inv.unrelated [] rfl (List.append_nil _).symm (by simp) rfl (sending_setDevice ?_)
      intro r
      split <;> simp
  | visit c i address =>
      refine inv.unrelated [] ?_ (List.append_nil _).symm (by simp) rfl (sending_setDevice (by simp))
      simp only [effect, visit]
      rw [Connection.trace_step, List.append_nil]

end

theorem log_reachable {s : State} (path : system.Reachable s) : LogInv s := by
  refine path.invariant ⟨rfl, ?_, ?_⟩ fun _ a inv guard => log_step inv a guard
  · intro r isSome
    cases isSome
  · intro c r sending
    cases sending

/-! ## The last response -/

/-- No request is being handled, no response is on its way, the host task is idle and
NimBLE owes no event. -/
structure Quiet (s : State) : Prop where
  tasks : ∀ c, s.backend.tasks c = .idle
  answered : ∀ c address, s.devices c ≠ .refused address
  sent : ∀ c r, s.devices c ≠ .sending r
  hostSend : s.hostSend = none
  host : s.backend.host = .idle
  links : ∀ c, ¬ (s.backend.links c).Pending

/-- With nothing on its way, the last entry of a NimBLE callback is the last report. -/
theorem lastSent_eq_lastReport {s : State} (inv : LogInv s) (hostSend : s.hostSend = none)
    (host : s.backend.host = .idle) (address : UInt64) :
    (lastSent Sent.isEvent s.log address).map Sent.response =
      (Connection.lastReport (Connection.reports s.backend) address).map responseOf := by
  have events := inv.events
  simp only [eventResponses, hostSend, Option.toList_none, List.append_nil] at events
  have same := congrArg
    (fun responses => responses.reverse.find? fun r => decide (r.address = address)) events
  rw [← List.map_reverse, ← List.map_reverse, List.find?_map, List.find?_map] at same
  simp only [lastSent, Connection.lastReport, Connection.reports, host, Connection.HostPc.owed,
    List.append_nil]
  exact same

/-- **The responses of the NimBLE callbacks follow the slot table.** With nothing
under way, the last one for an address says connected exactly if the table has a
Connected slot for it. -/
theorem event_response_agrees (s : State) (path : system.Reachable s) (quiet : Quiet s)
    (address : UInt64) (e : Sent) (last : lastSent Sent.isEvent s.log address = some e) :
    e.response.connected = true ↔
      ∃ i, (s.backend.slots i).state = .connected ∧ (s.backend.slots i).address = address := by
  have backend := backend_reachable path
  rw [← Connection.liveAt_iff_connected backend quiet.tasks quiet.links,
    ← Connection.reported_reachable backend address]
  have same := lastSent_eq_lastReport (log_reachable path) quiet.hostSend quiet.host address
  rw [last] at same
  obtain ⟨v, isLast, isResponse⟩ := Option.map_eq_some_iff.mp same.symm
  have connected : e.response.connected = v.result.connected := by rw [← isResponse]; rfl
  rw [connected]
  constructor
  · intro up
    exact ⟨v, isLast, up⟩
  · rintro ⟨w, isLastW, up⟩
    rw [isLast] at isLastW
    cases isLastW
    exact up

/-! ## Responses that do not follow the table -/

/-- The call of client 0 for device 7, and one that takes the slot after it. -/
def firstCall : Connection.Frame := ⟨0, 7, 0, slotNo 0, 0⟩

def secondCall : Connection.Frame := ⟨1, 7, 0, slotNo 0, 0⟩

/-- A client is accepted and served. -/
def served (c : ConnId) (fd : Fd) : List Action :=
  [.server (.accept fd), .server (.registerClient c fd), .server (.countClient c fd),
   .server (.createTask c fd true)]

/-- A CONNECT up to the return of `client->connect`. -/
def connects (c : ConnId) (f : Connection.Frame) (issued : Bool) : List Action :=
  [.request c ⟨f.address, .connectV3WithoutCache, false, 0⟩, .backend (.connectNotify c f),
   .backend (.connectStopScan c f), .backend (.connectIssue c f issued)]

/-- The attempt of a call comes up and the clients are told. -/
def comesUp (f : Connection.Frame) : List Action :=
  [.backend (.established f.client f.call), .backend (.onConnect f.client f.call false 247),
   .backend (.hostCallback (some f.call) f.address ⟨true, 247, 0⟩),
   .hostBroadcast (onConnectionState .event f.address ⟨true, 247, 0⟩),
   .backend .hostNotify, .backend .hostResume]

/-- The last client leaves, up to the end of its teardown's look at slot 0. -/
def leaves (c : ConnId) (fd : Fd) : List Action :=
  [.server (.endLoop c fd), .server (.released c fd), .server (.unregister c fd),
   .server (.discount c fd), .server (.checkLast c fd), .sweepStart c, .sweepState c (slotNo 0)]

/-- The teardown finds the other slots Free, and the connection is closed. -/
def sweptRest (c : ConnId) (fd : Fd) : List Action :=
  [.sweepState c (slotNo 1), .sweepState c (slotNo 2), .sweepState c (slotNo 3),
   .server (.teardownDone c fd), .server (.close c fd)]

/-- Client 0 connects device 7, then client 1 asks for it too. -/
def refusedSchedule : List Action :=
  served 0 5 ++ served 1 6 ++ connects 0 firstCall true ++ comesUp firstCall ++
  ([.request 1 ⟨7, .connect, false, 0⟩, .refuse 1 7, .broadcast 1 (refusal 7)] : List Action)

/-- The attempt of client 0 is not issued; its report comes after client 1's attempt. -/
def notIssuedSchedule : List Action :=
  served 0 5 ++ served 1 6 ++ connects 0 firstCall false ++
  ([.backend (.connectUnissued 0 firstCall)] : List Action) ++
  connects 1 secondCall true ++ comesUp secondCall ++
  ([.backend (.releaseNotify 0 firstCall (some 0)),
   .backend (.connectCallback 0 firstCall (some 0)),
   .broadcast 0 (onConnectionState .notIssued 7 ⟨false, 0, -1⟩)] : List Action)

/-- The teardown of the only client ends the link; nobody is left to be told. -/
def unheardSchedule : List Action :=
  served 0 5 ++ connects 0 firstCall true ++ comesUp firstCall ++ leaves 0 5 ++
  ([.readAddress 0 (slotNo 0), .visit 0 (slotNo 0) 7,
   .backend (.disconnectCall 0 0)] : List Action) ++
  sweptRest 0 5 ++
  ([.backend (.onDisconnect 0 0 531), .backend (.hostCallback (some 0) 7 ⟨false, 0, 531⟩),
   .backend .hostNotify, .backend .hostResume] : List Action)

/-- At most two tasks and one client object were ever used, and they are done. -/
theorem Quiet.of_two {s : State}
    (two : ∀ c, c < 2 → s.backend.tasks c = .idle ∧ s.devices c = .idle)
    (others : ∀ c, s.backend.tasks (c + 2) = .idle ∧ s.devices (c + 2) = .idle)
    (hostSend : s.hostSend = none) (host : s.backend.host = .idle)
    (link : ¬ (s.backend.links 0).Pending) (links : ∀ p, s.backend.links (p + 1) = .idle) :
    Quiet s := by
  have idle : ∀ c, s.backend.tasks c = .idle ∧ s.devices c = .idle := by
    intro c
    match c with
    | 0 => exact two 0 (by decide)
    | 1 => exact two 1 (by decide)
    | c + 2 => exact others c
  refine ⟨fun c => (idle c).1, ?_, ?_, hostSend, host, ?_⟩
  · intro c address
    rw [(idle c).2]
    exact nofun
  · intro c r
    rw [(idle c).2]
    exact nofun
  · intro p
    match p with
    | 0 => exact link
    | p + 1 =>
        rw [links p]
        exact id

theorem event_response_agrees_refused :
    ∃ s e, system.Reachable s ∧ Quiet s ∧ lastSent Sent.isEvent s.log 7 = some e ∧
      e.response.connected = true ∧
      (e.response.connected = true ↔
        ∃ i, (s.backend.slots i).state = .connected ∧ (s.backend.slots i).address = 7) := by
  have path := system.reachable_final refusedSchedule
  have quiet : Quiet (system.final refusedSchedule) :=
    .of_two (by decide) (fun _ => ⟨rfl, rfl⟩) rfl rfl (by decide) fun _ => rfl
  have last : lastSent Sent.isEvent (system.final refusedSchedule).log 7 =
      some ⟨onConnectionState .event 7 ⟨true, 247, 0⟩, true⟩ := by decide
  exact ⟨_, _, path, quiet, last, rfl, event_response_agrees _ path quiet 7 _ last⟩

/-- The last broadcast for every address, whoever produced it, says what the table has. -/
def LastBroadcastAgrees (s : State) : Prop :=
  ∀ address e, lastSent Sent.broadcast s.log address = some e →
    (e.response.connected = true ↔
      ∃ i, (s.backend.slots i).state = .connected ∧ (s.backend.slots i).address = address)

theorem not_agrees_of_connected {s : State} {address : UInt64} {e : Sent} (i : SlotIdx)
    (last : lastSent Sent.broadcast s.log address = some e) (denied : e.response.connected = false)
    (connected : (s.backend.slots i).state = .connected ∧ (s.backend.slots i).address = address) :
    ¬ LastBroadcastAgrees s := by
  intro agrees
  have said := (agrees address e last).mpr ⟨i, connected⟩
  rw [denied] at said
  cases said

/-- In three ways the last response broadcast for a device disagrees with the table:
a refusal for a connected device, a late report of an attempt that was not issued,
and a link that ends while no client is counted. -/
theorem last_response_disagrees :
    (∃ s, system.Reachable s ∧ Quiet s ∧
      lastSent Sent.broadcast s.log 7 = some ⟨refusal 7, true⟩ ∧ ¬ LastBroadcastAgrees s) ∧
    (∃ s, system.Reachable s ∧ Quiet s ∧ lastSent Sent.broadcast s.log 7 =
      some ⟨onConnectionState .notIssued 7 ⟨false, 0, -1⟩, true⟩ ∧ ¬ LastBroadcastAgrees s) ∧
    ∃ s, system.Reachable s ∧ Quiet s ∧ lastSent Sent.broadcast s.log 7 =
      some ⟨onConnectionState .event 7 ⟨true, 247, 0⟩, true⟩ ∧ ¬ LastBroadcastAgrees s := by
  have refused : lastSent Sent.broadcast (system.final refusedSchedule).log 7 =
      some ⟨refusal 7, true⟩ := by decide
  have notIssued : lastSent Sent.broadcast (system.final notIssuedSchedule).log 7 =
      some ⟨onConnectionState .notIssued 7 ⟨false, 0, -1⟩, true⟩ := by decide
  have unheard : lastSent Sent.broadcast (system.final unheardSchedule).log 7 =
      some ⟨onConnectionState .event 7 ⟨true, 247, 0⟩, true⟩ := by decide
  refine ⟨⟨_, system.reachable_final refusedSchedule, ?_, refused, ?_⟩,
    ⟨_, system.reachable_final notIssuedSchedule, ?_, notIssued, ?_⟩,
    ⟨_, system.reachable_final unheardSchedule, ?_, unheard, ?_⟩⟩
  case refine_2 => exact not_agrees_of_connected 0 refused rfl (by decide)
  case refine_4 => exact not_agrees_of_connected 0 notIssued rfl (by decide)
  case refine_6 =>
    intro agrees
    have up := (agrees 7 _ unheard).mp rfl
    revert up
    decide
  all_goals
    exact .of_two (by decide) (fun _ => ⟨rfl, rfl⟩) rfl rfl (by decide) fun _ => rfl

end NimbleProxy.Api.Devices
