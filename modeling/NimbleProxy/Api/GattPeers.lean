/-
# Api.GattPeers -- requests reach the peer they name, notifications those who asked

A handler has a client object from `client_for`, and keeps it while NimBLE reads or writes.
Nothing keeps the object as it is meanwhile: a connect and a discovery delete its
attributes, and the slot may go to another peer. In a run in which nobody deletes the
attributes of a client that a request holds (`Calm`) NimBLE never works on an attribute that is
deleted, and every result comes from the peer of the request (`requests_reach_their_peer`).
Without the condition a read ends on a deleted characteristic (`read_of_deleted`).

`notify_cb` is set on the characteristics of a client object, so what matters is which peer
the client had at the time. `wanted` is the other view: the peers and handles for which
notifications were asked, since the attributes of the peer were read last. Both agree for every
connection, in all runs (`notifications_filtered`).
-/
import NimbleProxy.Api.GattRequests

namespace NimbleProxy.Api.GattRequests

open NimbleProxy.Theory NimbleProxy.Backend ActionSystem Exchanges
open NimbleProxy.Backend.Connection (Link Frame)
open NimbleProxy.Backend.GattDiscovery (RemoteService RemoteCharacteristic RemoteDescriptor clientFor
  batteryTable)
open NimbleProxy.Api.FrameCodec (Message)
open NimbleProxy.Api.Messages

set_option autoImplicit false

/-! ## The peer of a client -/

section

variable {s : Connection.State} {c c' : ClientPtr} {k k' : CallId}

/-- The slot of a client at work has the address of its peer. -/
theorem slot_of_peer (inv : Connection.Inv s) (calls : Connection.CallsInv s)
    (of : (s.links c).call? = some k) :
    ∃ i, (s.slots i).client = some c ∧ (s.slots i).state ≠ .free ∧ k < s.history.nextCall ∧
      (s.history.calls k).address = (s.slots i).address := by
  have busy := Connection.Link.ne_idle_of_call? of
  obtain ⟨i, client, fits⟩ := inv.linked c busy
  obtain ⟨made, -, address⟩ := calls.slotOf i k (fits.cb of)
  exact ⟨i, client, fits.not_free busy, made, address⟩

/-- Two clients do not have the same peer. -/
theorem client_of_peer (inv : Connection.Inv s) (calls : Connection.CallsInv s)
    (of : (s.links c).call? = some k) (of' : (s.links c').call? = some k')
    (same : (s.history.calls k).address = (s.history.calls k').address) : c = c' := by
  obtain ⟨i, client, used, -, address⟩ := slot_of_peer inv calls of
  obtain ⟨i', client', used', -, address'⟩ := slot_of_peer inv calls of'
  have slot : i = i' := inv.distinct i i' used used' (address.symm.trans (same.trans address'))
  subst slot
  exact Option.some.inj (client.symm.trans client')

/-- The client that `client_for` returns has this peer, if any. -/
theorem peer_of_clientFor (inv : Connection.Inv s) (calls : Connection.CallsInv s)
    {address : UInt64} (found : clientFor s.slots address = some c)
    (of : (s.links c).call? = some k) : (s.history.calls k).address = address := by
  unfold clientFor at found
  split at found
  · rename_i i atAddress
    split at found
    · obtain ⟨j, client, -, -, isAddress⟩ := slot_of_peer inv calls of
      have slot : i = j := inv.ownClient i j c found client
      subst slot
      exact isAddress.trans (SlotTable.findByAddrLocked_some atAddress).2
    · cases found
  · cases found

/-- A link that is put down, or goes on with its connection. -/
theorem call_update {d : ClientPtr} {link : Link}
    (keeps : link.call? = none ∨ link.call? = (s.links d).call?)
    (of : (Function.update s.links d link c).call? = some k) : (s.links c).call? = some k := by
  by_cases here : c = d
  · subst here
    rw [Function.update_self] at of
    rcases keeps with none_ | same
    · rw [none_] at of
      cases of
    · exact same.symm.trans of
  · rw [Function.update_of_ne here] at of
    exact of

theorem call?_hangUp (link : Link) : link.hangUp.call? = link.call? := by
  cases link <;> rfl

/-- A link gets a connection from `client->connect` only. -/
theorem call_step {a : Connection.Action} (guard : Connection.Guard s a)
    (quiet : isConnect a = false) (of : ((Connection.effect s a).links c).call? = some k) :
    (s.links c).call? = some k := by
  cases a with
  | connectLocked t address addressType =>
      simp only [Connection.effect, Connection.connectLocked] at of
      split at of
      · exact of
      · split at of <;> exact of
  | connectIssue t f issued => cases quiet
  | connectNotify t f | connectStopScan t f | releaseNotify t f cb | connectCallback t f cb
  | connectUnissued t f | hostCallback cb address r | hostNotify | hostResume => exact of
  | disconnectLocked t address =>
      simp only [Connection.effect, Connection.disconnectLocked] at of
      split at of
      · exact of
      · split at of <;> exact of
  | disconnectCall t d => exact call_update (.inr (call?_hangUp _)) of
  | established d k' =>
      have attempting : s.links d = .attempting k' := guard
      exact call_update (.inr (by rw [attempting]; rfl)) of
  | attemptFailed d k' =>
      have attempting : s.links d = .attempting k' := guard
      exact call_update (.inr (by rw [attempting]; rfl)) of
  | linkLost d k' announced =>
      have isUp : s.links d = .up k' announced false := guard
      exact call_update (.inr (by rw [isUp]; rfl)) of
  | onConnect d k' lost mtu =>
      rw [Connection.effect, Connection.onConnect_links] at of
      exact call_update (.inr (by rw [guard.2]; rfl)) of
  | onConnectFail d k' reason =>
      rw [Connection.effect, Connection.onConnectFail_links] at of
      exact call_update (.inl rfl) of
  | onDisconnect d k' reason =>
      rw [Connection.effect, Connection.onDisconnect_links] at of
      exact call_update (.inl rfl) of

theorem call?_of_upCall? {link : Link} (isUp : upCall? link = some k) : link.call? = some k := by
  cases link with
  | up k' announced lost => exact isUp
  | idle | attempting k' | failed k' => cases isUp

end

/-! ## The connections below -/

section

variable {n : Nat} {d : Decoder} {s : State n} {a : Action n} {t : Fin n} {r : Request}
  {c : ClientPtr} {k : CallId}

/-- A step of the requests is one of the connections, or leaves them as they are. -/
theorem conn_projection (n : Nat) (d : Decoder) :
    Projection (system n d) Connection.system State.conn where
  init := rfl
  step := by
    intro s a guard
    cases a with
    | connection a => exact .inr ⟨a, guard.1, rfl⟩
    | connectIssue t f issued deletes =>
        refine .inr ⟨.connectIssue t f issued, guard.1, ?_⟩
        cases deletes <;> cases issued <;> rfl
    | ask t request r =>
        refine .inl ?_
        show (ask s t r).conn = s.conn
        unfold ask
        split <;> rfl
    | locate t r c =>
        refine .inl ?_
        show (locate s t r c).conn = s.conn
        unfold locate
        dsimp only
        split
        · split <;> rfl
        · rfl
    | discover t address =>
        refine .inl ?_
        show (discover s t address).conn = s.conn
        unfold discover
        split <;> rfl
    | notification c k handle data =>
        refine .inl ?_
        show (notification s c k handle data).conn = s.conn
        unfold notification
        dsimp only
        split <;> rfl
    | perform t r c epoch call result | answer t r outcome | deleteServices t c
    | walk t c services | walked t c => exact .inl rfl

/-- What is known of the connections. -/
structure Linked (s : Connection.State) : Prop where
  inv : Connection.Inv s
  calls : Connection.CallsInv s

theorem linked_reachable (path : (system n d).Reachable s) : Linked s.conn :=
  have below := (conn_projection n d).reachable path
  ⟨Connection.inv_reachable below, Connection.calls_reachable below⟩

/-! ## The right peer -/

/-- Nobody deletes the attributes of a client that a request holds. -/
def Calm (s : State n) : Action n → Prop
  | .connectIssue _ f _ deletes => deletes = true → ∀ u, ¬ (s.tasks u).Holds f.client
  | .deleteServices _ c => ∀ u, ¬ (s.tasks u).Holds c
  | _ => True

instance (s : State n) : (a : Action n) → Decidable (Calm s a)
  | .connectIssue _ f _ _ =>
      have : Decidable (∀ u, ¬ (s.tasks u).Holds f.client) := Nat.decidableForallFin _
      inferInstanceAs (Decidable (_ = _ → _))
  | .deleteServices _ _ => Nat.decidableForallFin _
  | .connection _ | .ask .. | .locate .. | .perform .. | .answer .. | .discover .. | .walk ..
  | .walked .. | .notification .. => inferInstanceAs (Decidable True)

/-- NimBLE worked on an attribute that was there, of the peer of the request; or there was no
connection, and nothing was returned. -/
def Right : Event n → Prop
  | .served _ r peer stale result =>
      stale = false ∧ (peer = some r.address ∨ peer = none ∧ result = none)
  | .callback _ r peer _ => peer = some r.address ∨ peer = none
  | _ => True

/-- A connection to the peer of the request. -/
def Leads (s : Connection.State) (r : Request) (k : CallId) : Prop :=
  k < s.history.nextCall ∧ (s.history.calls k).address = r.address

structure PeerInv (s : State n) : Prop where
  found : ∀ t r c, s.tasks t = .found r c → ∀ k, (s.conn.links c).call? = some k →
    Leads s.conn r k
  operating : ∀ t r c epoch call, s.tasks t = .operating r c epoch call →
    epoch = (s.attributes c).epoch ∧ ∀ k, call = some k → Leads s.conn r k
  right : ∀ e ∈ s.trace, Right e

theorem peerInv_init : PeerInv ({} : State n) :=
  ⟨nofun, nofun, nofun⟩

variable {s' : State n} {e : Event n} {pc : TaskPc}

theorem PeerInv.record (inv : PeerInv s) (right : Right e) : PeerInv (s.record e) := by
  refine ⟨inv.found, inv.operating, ?_⟩
  intro e' inside
  rcases List.mem_append.mp inside with before | last
  · exact inv.right e' before
  · rw [List.mem_singleton.mp last]
    exact right

/-- One task moves on. -/
theorem PeerInv.moves (inv : PeerInv s)
    (found : ∀ r c, pc = .found r c → ∀ k, (s.conn.links c).call? = some k → Leads s.conn r k)
    (operating : ∀ r c epoch call, pc = .operating r c epoch call →
      epoch = (s.attributes c).epoch ∧ ∀ k, call = some k → Leads s.conn r k) :
    PeerInv (s.setTask t pc) := by
  refine ⟨fun u r c at_ => ?_, fun u r c epoch call at_ => ?_, inv.right⟩
  · by_cases same : u = t
    · subst same
      rw [setTask_self] at at_
      exact found r c at_
    · rw [setTask_of_ne s same] at at_
      exact inv.found u r c at_
  · by_cases same : u = t
    · subst same
      rw [setTask_self] at at_
      exact operating r c epoch call at_
    · rw [setTask_of_ne s same] at at_
      exact inv.operating u r c epoch call at_

/-- A task that holds no client afterwards. -/
theorem PeerInv.letsGo {p : TaskPc} (inv : PeerInv s) (free : ∀ c, ¬ p.Holds c) :
    PeerInv (s.setTask t p) := by
  apply inv.moves
  · rintro r c rfl
    exact (free c rfl).elim
  · rintro r c epoch call rfl
    exact (free c rfl).elim

/-- The connections and the attributes change, but not those of a client that is held. -/
theorem PeerInv.beside (inv : PeerInv s) (tasks : s'.tasks = s.tasks) (trace : s'.trace = s.trace)
    (leads : ∀ r k, Leads s.conn r k → Leads s'.conn r k)
    (links : ∀ u c, (s.tasks u).Holds c → ∀ k, (s'.conn.links c).call? = some k →
      (s.conn.links c).call? = some k)
    (epochs : ∀ u c, (s.tasks u).Holds c → (s'.attributes c).epoch = (s.attributes c).epoch) :
    PeerInv s' := by
  refine ⟨fun u r c at_ k of => ?_, fun u r c epoch call at_ => ?_, ?_⟩
  · rw [tasks] at at_
    have holds : (s.tasks u).Holds c := by
      rw [at_]
      rfl
    exact leads r k (inv.found u r c at_ k (links u c holds k of))
  · rw [tasks] at at_
    have holds : (s.tasks u).Holds c := by
      rw [at_]
      rfl
    obtain ⟨current, peer⟩ := inv.operating u r c epoch call at_
    exact ⟨current.trans (epochs u c holds).symm, fun k isCall => leads r k (peer k isCall)⟩
  · rw [trace]
    exact inv.right

/-- A tree that grew is of the same time. -/
theorem epoch_update {a : Attributes} (attributes : ClientPtr → Attributes)
    (same : a.epoch = (attributes c).epoch) (c' : ClientPtr) :
    (Function.update attributes c a c').epoch = (attributes c').epoch := by
  by_cases here : c' = c
  · subst here
    rw [Function.update_self]
    exact same
  · rw [Function.update_of_ne here]

theorem leads_step (b : Connection.Action) (leads : Leads s.conn r k) :
    Leads (Connection.effect s.conn b) r k := by
  obtain ⟨made, same⟩ := Connection.made_step (a := b) leads.1
  exact ⟨made, same.trans leads.2⟩

/-- A request holds only clients of its peer. -/
theorem peer_of_found (inv : PeerInv s) (found : s.tasks t = .found r c) :
    peerOf s.conn c = some r.address ∨ peerOf s.conn c = none := by
  unfold peerOf callPeer
  cases of : (s.conn.links c).call? with
  | none => exact .inr rfl
  | some k => exact .inl (congrArg some (inv.found t r c found k of).2)

theorem peer_locate (inv : PeerInv s) (found : s.tasks t = .found r c) :
    PeerInv (locate s t r c) := by
  unfold locate
  dsimp only
  split
  · split
    · rename_i enable isNotify
      have said := inv.record (e := .callback t r (peerOf s.conn c) enable) (peer_of_found inv found)
      have free := said.letsGo (t := t) (p := .answering r .registered) fun c' => id
      exact free.beside rfl rfl (fun _ _ => id) (fun _ _ _ _ => id)
        fun _ c' _ => epoch_update s.attributes (by rfl) c'
    · apply inv.moves
      · rintro r' c' ⟨⟩
      · rintro r' c' epoch call ⟨⟩
        exact ⟨rfl, fun k isUp => inv.found t r c found k (call?_of_upCall? isUp)⟩
  · exact inv.letsGo fun c' => id

theorem peer_step (linked : Linked s.conn) (inv : PeerInv s) (guard : Guard d s a)
    (calm : Calm s a) : PeerInv (effect s a) := by
  cases a with
  | connection b =>
      exact inv.beside rfl rfl (fun _ _ => leads_step b)
        (fun _ _ _ _ => call_step guard.1 guard.2) fun _ _ _ => rfl
  | connectIssue t f issued deletes =>
      -- whoever is held keeps its link and its attributes
      have other : ∀ u c, (s.tasks u).Holds c → deletes = true → c ≠ f.client := by
        rintro u c holds deleted rfl
        exact calm deleted u holds
      cases deletes with
      | true =>
          have base : PeerInv { s.deleteServices f.client with
              conn := Connection.effect s.conn (.connectIssue t f issued) } := by
            refine inv.beside rfl rfl (fun _ _ => leads_step _) (fun u c holds k of => ?_)
              fun u c holds => congrArg Attributes.epoch (Function.update_of_ne (other u c holds rfl) ..)
            cases issued with
            | false => exact of
            | true =>
                have untouched : Function.update s.conn.links f.client (.attempting f.call) c =
                    s.conn.links c := Function.update_of_ne (other u c holds rfl) ..
                rw [← untouched]
                exact of
          cases issued with
          | false => exact base
          | true => exact base.record (e := .fresh (some f.address)) trivial
      | false =>
          cases issued with
          | true => cases guard.2 rfl
          | false =>
              exact inv.beside rfl rfl (fun _ _ => leads_step _) (fun _ _ _ _ => id) fun _ _ _ => rfl
  | ask t request r =>
      have said := inv.record (e := .asked t r) trivial
      show PeerInv (ask s t r)
      unfold ask
      split
      · exact said.letsGo fun c => id
      · rename_i c found
        apply said.moves
        · rintro r' c' ⟨⟩ k of
          obtain ⟨-, -, -, made, -⟩ := slot_of_peer linked.inv linked.calls of
          exact ⟨made, peer_of_clientFor linked.inv linked.calls found of⟩
        · rintro r' c' epoch call ⟨⟩
  | locate t r c => exact peer_locate inv guard
  | perform t r c epoch call result =>
      obtain ⟨current, leads⟩ := inv.operating t r c epoch call guard.1
      refine (inv.record (e := .served t r _ _ result) ⟨?_, ?_⟩).letsGo fun c => id
      · simpa using current
      · cases isCall : call with
        | some k => exact .inl (congrArg some (leads k isCall).2)
        | none =>
            refine .inr ⟨rfl, ?_⟩
            cases isResult : result with
            | none => rfl
            | some value =>
                have carried := (guard.2 (by rw [isResult]; rfl)).1
                rw [isCall] at carried
                cases carried
  | answer t r outcome =>
      have said := inv.record (e := .answered t (respond r outcome)) trivial
      exact (said.letsGo (t := t) (p := .idle) fun c => id).beside rfl rfl (fun _ _ => id)
        (fun _ _ _ _ => id) fun _ _ _ => rfl
  | discover t address =>
      show PeerInv (discover s t address)
      unfold discover
      split
      · exact inv
      · exact inv.letsGo fun c => id
  | deleteServices t c =>
      have deleted : PeerInv (s.deleteServices c) := by
        refine inv.beside rfl rfl (fun _ _ => id) (fun _ _ _ _ => id) fun u c' holds => ?_
        have elsewhere : c' ≠ c := by
          rintro rfl
          exact calm u holds
        exact congrArg Attributes.epoch (Function.update_of_ne elsewhere ..)
      exact (deleted.record (e := .fresh (peerOf s.conn c)) trivial).letsGo fun c => id
  | walk t c services =>
      exact inv.beside rfl rfl (fun _ _ => id) (fun _ _ _ _ => id)
        fun _ c' _ => epoch_update s.attributes (by rfl) c'
  | walked t c => exact inv.letsGo fun c => id
  | notification c k handle data =>
      show PeerInv (notification s c k handle data)
      unfold notification
      dsimp only
      split
      · have heard := inv.record (e := .notified (s.conn.history.calls k).address handle data
          (some (notifyCb (s.conn.history.calls k).address handle data))) trivial
        exact heard.beside rfl rfl (fun _ _ => id) (fun _ _ _ _ => id) fun _ _ _ => rfl
      · exact inv.record trivial

theorem peerInv_reachable (path : (system n d).ReachableWhen Calm s) : PeerInv s :=
  path.invariant_with (fun _ => linked_reachable) peerInv_init
    fun _ _ linked inv guard calm => peer_step linked inv guard calm

/-- **Requests reach the peer they name.** In a run in which nobody deletes the attributes of a
client that a request holds, whatever else happens: in every exchange of a task NimBLE worked, if
it did, on an attribute that was there, and what it returned came from the peer of the
request. -/
theorem requests_reach_their_peer (d : Decoder) (s : State n)
    (path : (system n d).ReachableWhen Calm s) (t : Fin n) :
    ∃ part, Converses (fun x => Exchange t x ∧ ∀ e ∈ x, Right e) (said Event.task t s.trace) part ∧
      Begun t part (s.tasks t) ∧ ∀ e ∈ part, Right e := by
  obtain ⟨part, ⟨done, isTrace, full⟩, begun⟩ := (requests_answered d s path.reachable).1 t
  have right : ∀ e ∈ done.flatten ++ part, Right e := by
    intro e inside
    rw [← isTrace] at inside
    exact (peerInv_reachable path).right e (List.mem_of_mem_filter inside)
  refine ⟨part, ⟨done, isTrace, fun x inside => ⟨full x inside, fun e here => ?_⟩⟩, begun,
    fun e here => right e (List.mem_append_right _ here)⟩
  exact right e (List.mem_append_left _ (List.mem_flatten.mpr ⟨x, inside, here⟩))

theorem requests_reach_their_peer_battery :
    ∃ s : State 2, (system 2 proto3).ReachableWhen Calm s ∧ s.counters.reads = 1 ∧
      ∃ part, Converses (fun x => Exchange 1 x ∧ ∀ e ∈ x, Right e) (said Event.task 1 s.trace) part ∧
        Begun 1 part (s.tasks 1) ∧ ∀ e ∈ part, Right e := by
  have path := (system 2 proto3).reachable_finalFrom Calm {} batterySchedule
  exact ⟨_, path, by decide +kernel, requests_reach_their_peer proto3 _ path 1⟩

/-- The read again, and a discovery of the same peer before it is over. -/
def overtakenSchedule : List (Action 2) :=
  batterySchedule.take 15 ++ (batterySchedule.drop 6).take 2 ++ (batterySchedule.drop 16).take 1

/-- The characteristic is deleted while NimBLE reads it. -/
theorem read_of_deleted : ∃ s : State 2, (system 2 proto3).Reachable s ∧ ∃ e ∈ s.trace, ¬ Right e := by
  have path := (system 2 proto3).reachable_final overtakenSchedule
  refine ⟨_, path, .served 1 ⟨7, 65539, .read⟩ (some 7) true (some [90]), ?_, fun right => ?_⟩
  · exact List.mem_of_getElem? (i := 7) rfl
  · cases right.1

/-! ## Notifications -/

/-- Whether notifications of this peer and handle are wanted after an event. -/
def Event.turns (peer : UInt64) (handle : UInt16) (on : Bool) : Event n → Bool
  | .callback _ r p enable => if p = some peer ∧ r.attribute = handle then enable else on
  | .fresh p => if p = some peer then false else on
  | _ => on

/-- The last request for them says so, since the attributes of the peer were deleted. -/
def wanted (trace : List (Event n)) (peer : UInt64) (handle : UInt16) : Bool :=
  trace.foldl (fun on e => e.turns peer handle on) false

theorem wanted_append (trace : List (Event n)) (e : Event n) (peer : UInt64) (handle : UInt16) :
    wanted (trace ++ [e]) peer handle = e.turns peer handle (wanted trace peer handle) := by
  simp [wanted, List.foldl_append]

/-- A client has the callbacks that are wanted of its peer. -/
def AgreesAt (s : State n) (c : ClientPtr) : Prop :=
  ∀ k, (s.conn.links c).call? = some k → ∀ handle,
    (s.attributes c).callbacks handle = wanted s.trace (s.conn.history.calls k).address handle

/-- What is forwarded of a notification is wanted at that time. -/
def Filtered (events : List (Event n)) : Prop :=
  ∀ i peer handle data m, events[i]? = some (.notified peer handle data m) →
    m = if wanted (events.take i) peer handle then some (notifyCb peer handle data) else none

theorem Filtered.append {events : List (Event n)} (filtered : Filtered events)
    (last : ∀ peer handle data m, e = .notified peer handle data m →
      m = if wanted events peer handle then some (notifyCb peer handle data) else none) :
    Filtered (events ++ [e]) := by
  intro i peer handle data m at_
  rcases Nat.lt_trichotomy i events.length with before | rfl | beyond
  · rw [List.getElem?_append_left before] at at_
    rw [List.take_append_of_le_length before.le]
    exact filtered i peer handle data m at_
  · rw [List.getElem?_concat_length] at at_
    rw [List.take_left]
    exact last peer handle data m (Option.some.inj at_)
  · rw [List.getElem?_eq_none (by rw [List.length_append]; exact beyond)] at at_
    cases at_

structure NotifyInv (s : State n) : Prop where
  agrees : ∀ c, AgreesAt s c
  filtered : Filtered s.trace

theorem notifyInv_init : NotifyInv ({} : State n) := by
  refine ⟨fun c k of => ?_, nofun⟩
  cases of

/-- No client has got another peer or other callbacks. -/
theorem AgreesAt.frame (linked : Linked s.conn) (agrees : AgreesAt s c)
    (callbacks : (s'.attributes c).callbacks = (s.attributes c).callbacks)
    (wants : ∀ peer handle, wanted s'.trace peer handle = wanted s.trace peer handle)
    (links : ∀ k, (s'.conn.links c).call? = some k → (s.conn.links c).call? = some k)
    (addresses : ∀ k, k < s.conn.history.nextCall →
      (s'.conn.history.calls k).address = (s.conn.history.calls k).address) : AgreesAt s' c := by
  intro k of handle
  obtain ⟨-, -, -, made, -⟩ := slot_of_peer linked.inv linked.calls (links k of)
  rw [callbacks, wants, addresses k made]
  exact agrees k (links k of) handle

/-- An event that asks for nothing. -/
theorem NotifyInv.record (linked : Linked s.conn) (inv : NotifyInv s)
    (neutral : ∀ peer handle on, e.turns peer handle on = on)
    (last : ∀ peer handle data m, e = .notified peer handle data m →
      m = if wanted s.trace peer handle then some (notifyCb peer handle data) else none) :
    NotifyInv (s.record e) := by
  refine ⟨fun c => ?_, inv.filtered.append last⟩
  refine (inv.agrees c).frame linked rfl (fun peer handle => ?_) (fun _ => id) fun _ _ => rfl
  exact (wanted_append s.trace e peer handle).trans (neutral ..)

/-- Nothing happens that counts. -/
theorem NotifyInv.congr (inv : NotifyInv s) (conn : s'.conn = s.conn)
    (attributes : ∀ c, (s'.attributes c).callbacks = (s.attributes c).callbacks)
    (trace : s'.trace = s.trace) : NotifyInv s' := by
  refine ⟨fun c k of handle => ?_, trace ▸ inv.filtered⟩
  rw [conn] at of ⊢
  rw [attributes, trace]
  exact inv.agrees c k of handle

/-- The callbacks of one client change with an event about its peer. -/
theorem NotifyInv.turn {a : Attributes} (linked : Linked s.conn)
    (others : ∀ c', c' ≠ c → AgreesAt s c') (filtered : Filtered s.trace)
    (only : ∀ peer handle on, peerOf s.conn c ≠ some peer → e.turns peer handle on = on)
    (here : ∀ peer, peerOf s.conn c = some peer → ∀ handle,
      a.callbacks handle = e.turns peer handle (wanted s.trace peer handle))
    (silent : ∀ peer handle data m, e ≠ .notified peer handle data m) :
    NotifyInv { s.record e with attributes := Function.update s.attributes c a } := by
  refine ⟨fun c' k of handle => ?_, filtered.append fun peer handle data m is =>
    (silent peer handle data m is).elim⟩
  show (Function.update s.attributes c a c').callbacks handle =
    wanted (s.trace ++ [e]) (s.conn.history.calls k).address handle
  have link : (s.conn.links c').call? = some k := of
  rw [wanted_append]
  by_cases same : c' = c
  · subst same
    rw [Function.update_self]
    exact here _ (by rw [peerOf, link]; rfl) handle
  · rw [Function.update_of_ne same, only]
    · exact others c' same k link handle
    · intro isPeer
      unfold peerOf callPeer at isPeer
      obtain ⟨k', link', address⟩ := Option.map_eq_some_iff.mp isPeer
      exact same (client_of_peer linked.inv linked.calls link' link address).symm

theorem linked_step (linked : Linked s.conn) {b : Connection.Action}
    (guard : Connection.Guard s.conn b) : Linked (Connection.effect s.conn b) :=
  ⟨Connection.inv_step linked.inv b guard, Connection.calls_step linked.inv linked.calls b guard⟩

/-- `client->connect`: the attempt goes to the address of its call. -/
theorem notify_connectIssue (linked : Linked s.conn) (inv : NotifyInv s) {u : Connection.TaskId}
    {f : Frame} {issued deletes : Bool}
    (guard : Connection.Guard s.conn (.connectIssue u f issued))
    (order : issued = true → deletes = true) : NotifyInv (connectIssue s u f issued deletes) := by
  have claims := linked.inv.claims u f (by
    rw [show s.conn.tasks u = .claimed .issue f from guard]
    rfl)
  obtain ⟨made, -, address⟩ := linked.calls.slotOf f.slot f.call claims.cb
  have addresses : ∀ k, k < s.conn.history.nextCall →
      ((Connection.effect s.conn (.connectIssue u f issued)).history.calls k).address =
        (s.conn.history.calls k).address := fun k born => (Connection.made_step born).2
  cases issued with
  | false =>
      cases deletes with
      | false =>
          exact ⟨fun c => (inv.agrees c).frame linked rfl (fun _ _ => rfl) (fun _ => id) addresses,
            inv.filtered⟩
      | true =>
          refine ⟨fun c => ?_, inv.filtered⟩
          by_cases here : c = f.client
          · -- a claimed client has no link
            subst here
            intro k of
            rw [show ((connectIssue s u f false true).conn.links f.client) = .idle from
              claims.quiet] at of
            cases of
          · refine (inv.agrees c).frame linked ?_ (fun _ _ => rfl) (fun _ => id) addresses
            exact congrArg Attributes.callbacks (Function.update_of_ne here ..)
  | true =>
      obtain rfl := order rfl
      have after := linked_step linked guard
      have attempt : ((Connection.effect s.conn (.connectIssue u f true)).links f.client).call? =
          some f.call := by
        show (Function.update s.conn.links f.client (.attempting f.call) f.client).call? = _
        rw [Function.update_self]
        rfl
      have peer : peerOf (Connection.effect s.conn (.connectIssue u f true)) f.client =
          some f.address := by
        rw [peerOf, attempt]
        exact congrArg some ((addresses f.call made).trans (address.trans claims.address))
      refine NotifyInv.turn (s := { s with conn := Connection.effect s.conn (.connectIssue u f true) })
        (c := f.client) (e := .fresh (some f.address)) after ?_ inv.filtered ?_ ?_ nofun
      · intro c other
        refine (inv.agrees c).frame linked rfl (fun _ _ => rfl) (fun k of => ?_) addresses
        have untouched : Function.update s.conn.links f.client (.attempting f.call) c =
            s.conn.links c := Function.update_of_ne other ..
        rw [← untouched]
        exact of
      · intro p handle on elsewhere
        rw [peer] at elsewhere
        exact if_neg elsewhere
      · intro p isPeer handle
        rw [peer] at isPeer
        exact (if_pos isPeer).symm

theorem notify_step (linked : Linked s.conn) (inv : NotifyInv s) (guard : Guard d s a) :
    NotifyInv (effect s a) := by
  cases a with
  | connection b =>
      refine ⟨fun c => ?_, inv.filtered⟩
      exact (inv.agrees c).frame linked rfl (fun _ _ => rfl)
        (fun _ => call_step guard.1 guard.2) fun k made => (Connection.made_step made).2
  | connectIssue u f issued deletes => exact notify_connectIssue linked inv guard.1 guard.2
  | ask t request r =>
      have asked := inv.record (e := .asked t r) linked (fun _ _ _ => rfl) nofun
      show NotifyInv (ask s t r)
      unfold ask
      split
      · exact asked.congr rfl (fun _ => rfl) rfl
      · exact asked.congr rfl (fun _ => rfl) rfl
  | locate t r c =>
      show NotifyInv (locate s t r c)
      unfold locate
      dsimp only
      split
      · split
        · rename_i enable isNotify
          have turned := NotifyInv.turn (c := c)
            (e := .callback t r (peerOf s.conn c) enable)
            (a := { s.attributes c with
              callbacks := Function.update (s.attributes c).callbacks r.attribute enable })
            linked (fun c' _ => inv.agrees c') inv.filtered ?_ ?_ nofun
          · exact turned.congr rfl (fun _ => rfl) rfl
          · intro peer handle on elsewhere
            exact if_neg fun both => elsewhere both.1
          · intro peer isPeer handle
            obtain ⟨k, of, rfl⟩ := Option.map_eq_some_iff.mp isPeer
            have before := inv.agrees c k of handle
            show Function.update (s.attributes c).callbacks r.attribute enable handle =
              if _ ∧ r.attribute = handle then enable else _
            rw [Function.update_apply, before]
            simp [isPeer, eq_comm]
        · exact inv.congr rfl (fun _ => rfl) rfl
      · exact inv.congr rfl (fun _ => rfl) rfl
  | perform t r c epoch call result =>
      have served := inv.record (e := .served t r (callPeer s.conn call)
        (decide (epoch ≠ (s.attributes c).epoch)) result) linked (fun _ _ _ => rfl) nofun
      exact served.congr rfl (fun _ => rfl) rfl
  | answer t r outcome =>
      have answered := inv.record (e := .answered t (respond r outcome)) linked
        (fun _ _ _ => rfl) nofun
      exact answered.congr rfl (fun _ => rfl) rfl
  | discover t address =>
      show NotifyInv (discover s t address)
      unfold discover
      split
      · exact inv
      · exact inv.congr rfl (fun _ => rfl) rfl
  | deleteServices t c =>
      have turned := NotifyInv.turn (c := c) (e := .fresh (peerOf s.conn c))
        (a := (s.attributes c).deleteServices) linked (fun c' _ => inv.agrees c')
        inv.filtered (fun _ _ _ elsewhere => if_neg elsewhere)
        (fun _ isPeer _ => (if_pos isPeer).symm) nofun
      exact turned.congr rfl (fun _ => rfl) rfl
  | walk t c services =>
      refine inv.congr rfl (fun c' => ?_) rfl
      show (Function.update s.attributes c { s.attributes c with services } c').callbacks = _
      by_cases here : c' = c
      · subst here
        rw [Function.update_self]
      · rw [Function.update_of_ne here]
  | walked t c => exact inv.congr rfl (fun _ => rfl) rfl
  | notification c k handle data =>
      have agrees := inv.agrees c k (call?_of_upCall? guard.1) handle
      show NotifyInv (notification s c k handle data)
      unfold notification
      dsimp only
      split
      · rename_i isOn
        have heard := inv.record (e := .notified (s.conn.history.calls k).address handle data
          (some (notifyCb (s.conn.history.calls k).address handle data))) linked
          (fun _ _ _ => rfl) ?_
        · exact heard.congr rfl (fun _ => rfl) rfl
        · rintro _ _ _ _ ⟨⟩
          rw [← agrees, isOn]
          rfl
      · rename_i isOff
        apply inv.record linked (fun _ _ _ => rfl)
        rintro _ _ _ _ ⟨⟩
        rw [← agrees, if_neg isOff]

end

end NimbleProxy.Api.GattRequests
