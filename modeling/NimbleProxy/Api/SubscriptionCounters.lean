/-
# Api.SubscriptionCounters -- the subscription counters are exact

A counter is the number of connections whose increment is in and whose decrement
is not (`Client.advIn`, `Client.freeIn`), whatever the handlers are in the middle
of. With every handler at rest that is the number of flags set. A flag is set only
while its connection is served or about to release it (`Client.Fits`), so the
flags set are those of connected clients.
-/
import NimbleProxy.Api.Subscriptions

namespace NimbleProxy.Api.Subscriptions

open NimbleProxy.Theory NimbleProxy.Api.Server

set_option autoImplicit false

/-! ## What one client may look like -/

namespace HandlerPc

/-- The positions a task in its dispatch loop may be at. -/
def inLoop : HandlerPc → Bool
  | .idle | .addAdv | .start | .subAdv false | .stop false | .addFree => true
  | _ => false

/-- The positions a task in `on_client_disconnect` may be at. -/
def inRelease : HandlerPc → Bool
  | .idle | .subAdv true | .stop true | .leaveFree | .subFree | .left => true
  | _ => false

def finished : HandlerPc → Bool
  | .left | .tornDown => true
  | _ => false

/-- No handler is in the middle of anything. -/
def atRest : HandlerPc → Bool
  | .idle | .left | .tornDown => true
  | _ => false

end HandlerPc

namespace Client

/-- The flags a client has when its task is where it is. -/
def flagsOk (client : Client) : Bool :=
  match client.handler with
  | .idle => true
  | .addAdv | .start => client.subs.subAdv
  | .subAdv _ | .stop _ | .leaveFree => !client.subs.subAdv
  | .addFree => client.subs.subFree
  | .subFree | .left | .tornDown => !client.subs.subAdv && !client.subs.subFree

/-- The client's handler belongs to where its connection is. -/
def placed (client : Client) : Option ConnAt → Prop
  | some .running => client.handler.inLoop = true
  | some .releasing => client.handler.inRelease = true
  | some pos => if pos.ofListener then client = {} else client.handler.finished = true
  | none => client = {} ∨ client.handler.finished = true

structure Fits (client : Client) (pos : Option ConnAt) : Prop where
  flags : client.flagsOk = true
  place : client.placed pos

/-- The client's increment of `g_sub_adv_count` is in. -/
def advIn (client : Client) : Bool :=
  match client.handler with
  | .addAdv => false
  | .subAdv _ => true
  | _ => client.subs.subAdv

/-- The client's increment of `g_sub_free_count` is in. -/
def freeIn (client : Client) : Bool :=
  match client.handler with
  | .addFree => false
  | .subFree => true
  | _ => client.subs.subFree

theorem fits_new {pos : Option ConnAt} (new : ∀ p ∈ pos, p.ofListener = true ∨ p = .running) :
    ({} : Client).Fits pos := by
  refine ⟨rfl, ?_⟩
  cases pos with
  | none => exact .inl rfl
  | some pos =>
      rcases new pos rfl with byListener | rfl
      · cases pos <;> simp_all [placed, ConnAt.ofListener]
      · rfl

theorem placed_past {client : Client} {pos : ConnAt} (past : pos.past = true) :
    client.placed (some pos) ↔ client.handler.finished = true := by
  cases pos <;> simp_all [placed, ConnAt.past, ConnAt.ofListener]

theorem placed_listener {client : Client} {pos : ConnAt} (byListener : pos.ofListener = true) :
    client.placed (some pos) ↔ client = {} := by
  cases pos <;> simp_all [placed, ConnAt.ofListener]

/-- A client with a flag set is in its dispatch loop or about to release it. -/
theorem Fits.served {client : Client} {pos : Option ConnAt} (fits : client.Fits pos)
    (flag : client.subs.subAdv = true ∨ client.subs.subFree = true) :
    pos = some .running ∨ pos = some .releasing := by
  have notNew : client ≠ {} := by
    rintro rfl
    rcases flag with h | h <;> cases h
  have unfinished : client.handler.finished ≠ true := by
    intro finished
    have flags := fits.flags
    cases pc : client.handler <;> simp_all [flagsOk, HandlerPc.finished]
  cases pos with
  | none =>
      rcases fits.place with new | finished
      · exact absurd new notNew
      · exact absurd finished unfinished
  | some pos =>
      by_cases byListener : pos.ofListener = true
      · exact absurd ((placed_listener byListener).mp fits.place) notNew
      · by_cases past : pos.past = true
        · exact absurd ((placed_past past).mp fits.place) unfinished
        · cases pos <;> simp_all [ConnAt.ofListener, ConnAt.past]

/-- A client in the middle of a request is in its dispatch loop. -/
theorem Fits.running {client : Client} {pos : Option ConnAt} (fits : client.Fits pos)
    (busy : client.handler.inLoop = true) (notIdle : client.handler ≠ .idle) :
    pos = some .running := by
  have notNew : client ≠ {} := fun new => notIdle (by rw [new])
  have unfinished : client.handler.finished ≠ true := by
    intro finished
    cases pc : client.handler <;> simp_all [HandlerPc.finished, HandlerPc.inLoop]
  have notRelease : client.handler.inRelease ≠ true := by
    intro release
    cases pc : client.handler with
    | subAdv leaving | stop leaving =>
        cases leaving <;> simp_all [HandlerPc.inRelease, HandlerPc.inLoop]
    | _ => simp_all [HandlerPc.inRelease, HandlerPc.inLoop]
  cases pos with
  | none => exact absurd fits.place (by rintro (new | finished) <;> contradiction)
  | some pos =>
      have place := fits.place
      cases pos <;> simp_all [placed, ConnAt.ofListener]

/-- A client in the middle of `on_client_disconnect` is releasing. -/
theorem Fits.releasing {client : Client} {pos : Option ConnAt} (fits : client.Fits pos)
    (busy : client.handler.inRelease = true) (notIdle : client.handler ≠ .idle)
    (notLeft : client.handler ≠ .left) : pos = some .releasing := by
  have notNew : client ≠ {} := fun new => notIdle (by rw [new])
  have unfinished : client.handler.finished ≠ true := by
    intro finished
    cases pc : client.handler <;> simp_all [HandlerPc.finished, HandlerPc.inRelease]
  have notLoop : client.handler.inLoop ≠ true := by
    intro loop
    cases pc : client.handler with
    | subAdv leaving | stop leaving =>
        cases leaving <;> simp_all [HandlerPc.inRelease, HandlerPc.inLoop]
    | _ => simp_all [HandlerPc.inRelease, HandlerPc.inLoop]
  cases pos with
  | none => exact absurd fits.place (by rintro (new | finished) <;> contradiction)
  | some pos =>
      have place := fits.place
      cases pos <;> simp_all [placed, ConnAt.ofListener]

end Client

/-! ## The invariant -/

/-- The number of connections whose client satisfies `p`. -/
def clientsWith (s : State) (p : Client → Bool) : Nat :=
  tally (Finset.range s.server.nextConn) fun c => p (s.clients c) = true

structure SubsInv (s : State) : Prop where
  fits : ∀ c, (s.clients c).Fits (s.pos c)
  unborn : ∀ c, s.server.nextConn ≤ c → s.clients c = {}
  adv : s.subAdvCount = clientsWith s Client.advIn
  free : s.subFreeCount = clientsWith s Client.freeIn

/-- What one client adds to a counter. -/
def share (counted : Bool) : Int :=
  if counted = true then 1 else 0

@[simp] theorem share_true : share true = 1 := rfl
@[simp] theorem share_false : share false = 0 := rfl

theorem subsInv_init : SubsInv ({} : State) :=
  ⟨fun _ => Client.fits_new (by simp [State.pos]), fun _ _ => rfl, rfl, rfl⟩

section

variable {s s' : State} {c : ConnId}

theorem SubsInv.born (inv : SubsInv s) (busy : s.clients c ≠ {}) : c < s.server.nextConn := by
  by_contra late
  exact busy (inv.unborn c (Nat.le_of_not_lt late))

theorem born_of_pos (reg : RegInv s.server) {pos : ConnAt} (here : s.pos c = some pos) :
    c < s.server.nextConn := by
  obtain ⟨⟨pos', fd⟩, held, -⟩ := Option.map_eq_some_iff.mp here
  exact reg.known c pos' fd held

/-- A step of one client that moves a counter as it moves that client's share. -/
theorem SubsInv.client (inv : SubsInv s) (born : c < s.server.nextConn) (client : Client)
    (clients : s'.clients = Function.update s.clients c client) (server : s'.server = s.server)
    (fits : client.Fits (s.pos c))
    (adv : s'.subAdvCount + share (s.clients c).advIn = s.subAdvCount + share client.advIn)
    (free : s'.subFreeCount + share (s.clients c).freeIn = s.subFreeCount + share client.freeIn) :
    SubsInv s' := by
  have moved : ∀ p : Client → Bool, clientsWith s' p + (if p (s.clients c) = true then 1 else 0) =
      clientsWith s p + if p client = true then 1 else 0 := by
    intro p
    have change := tally_change (S := Finset.range s.server.nextConn)
      (p := fun d => p (s.clients d) = true) (q := fun d => p (s'.clients d) = true)
      (Finset.mem_range.mpr born) (by
        intro d other
        simp only [clients, Function.update_of_ne other])
    unfold clientsWith
    rw [server]
    simpa only [clients, Function.update_self] using change
  have pos : ∀ d, s'.pos d = s.pos d := by
    intro d
    simp only [State.pos, server]
  refine ⟨?_, ?_, ?_, ?_⟩
  · intro d
    rw [pos, clients, Function.update_apply]
    split
    · rename_i here
      rw [here]
      exact fits
    · exact inv.fits d
  · intro d late
    rw [server] at late
    have other : d ≠ c := fun here => absurd born (Nat.not_lt.mpr (here ▸ late))
    rw [clients, Function.update_of_ne other]
    exact inv.unborn d late
  · exact counter_follows inv.adv (moved Client.advIn) adv
  · exact counter_follows inv.free (moved Client.freeIn) free

/-! ## Every action keeps it -/

theorem subs_server (inv : SubsInv s) (a : Server.Action)
    (guard : Server.Guard s.server a) (returned : Returned s a) :
    SubsInv { s with server := Server.effect s.server a } := by
  rcases conns_step guard with ⟨fd, rfl⟩ | ⟨conns, nextConn⟩ | ⟨c, fd, pos, next, step⟩
  · -- the newcomer has the default client and adds nothing
    have new := inv.unborn s.server.nextConn (Nat.le_refl _)
    have same : ∀ p : Client → Bool, p {} = false →
        clientsWith { s with server := Server.effect s.server (.accept fd) } p = clientsWith s p := by
      intro p out
      have grown := tally_range_succ s.server.nextConn fun c => p (s.clients c) = true
      rw [new, out] at grown
      exact grown
    refine ⟨?_, ?_, ?_, ?_⟩
    · intro d
      by_cases here : d = s.server.nextConn
      · subst here
        simp only [new]
        apply Client.fits_new
        simp [State.pos, Server.effect, Server.accept, ConnAt.ofListener]
      · have fits := inv.fits d
        simp only [State.pos, Server.effect, Server.accept, Function.update_of_ne here]
        exact fits
    · intro d late
      exact inv.unborn d (Nat.le_of_succ_le late)
    · rw [same Client.advIn rfl]
      exact inv.adv
    · rw [same Client.freeIn rfl]
      exact inv.free
  · refine ⟨?_, ?_, ?_, ?_⟩
    · intro d
      simp only [State.pos, conns]
      exact inv.fits d
    · simpa only [nextConn] using inv.unborn
    · simpa only [clientsWith, nextConn] using inv.adv
    · simpa only [clientsWith, nextConn] using inv.free
  · refine ⟨?_, ?_, ?_, ?_⟩
    · intro d
      by_cases here : d = c
      · subst here
        have posC : s.pos d = some pos := by simp [State.pos, step.held]
        have fits := inv.fits d
        rw [posC] at fits
        have posAfter : State.pos { s with server := Server.effect s.server a } d = next := by
          simp only [State.pos, step.conns, Function.update_self]
          cases next <;> rfl
        rw [posAfter]
        cases step.follows with
        | listener byListener new =>
            have isNew := (Client.placed_listener byListener).mp fits.place
            simp only [isNew]
            exact Client.fits_new new
        | endLoop isEnd =>
            subst isEnd
            exact ⟨fits.flags, by simp [Client.placed, show (s.clients d).handler = .idle from returned,
              HandlerPc.inRelease]⟩
        | released isReleased =>
            subst isReleased
            exact ⟨fits.flags, (Client.placed_past rfl).mpr (by
              simp [show (s.clients d).handler = .left from returned, HandlerPc.finished])⟩
        | leaving past ahead =>
            have finished := (Client.placed_past past).mp fits.place
            refine ⟨fits.flags, ?_⟩
            cases next with
            | none => exact .inr finished
            | some p => exact (Client.placed_past (ahead p rfl)).mpr finished
      · have fits := inv.fits d
        simp only [State.pos, step.conns, Function.update_of_ne here]
        exact fits
    · simpa only [step.nextConn] using inv.unborn
    · simpa only [clientsWith, step.nextConn] using inv.adv
    · simpa only [clientsWith, step.nextConn] using inv.free

/-- A client whose handler moves on without touching a flag or a counter. -/
theorem subs_handler (inv : SubsInv s) (born : c < s.server.nextConn) (handler : HandlerPc)
    (fits : Client.Fits ⟨(s.clients c).subs, handler⟩ (s.pos c))
    (adv : Client.advIn ⟨(s.clients c).subs, handler⟩ = (s.clients c).advIn)
    (free : Client.freeIn ⟨(s.clients c).subs, handler⟩ = (s.clients c).freeIn) (forwarding : Bool) :
    SubsInv { s.setClient c ⟨(s.clients c).subs, handler⟩ with forwarding } :=
  inv.client born _ rfl rfl fits (by rw [adv]; rfl) (by rw [free]; rfl)

/-- A client of this handler has been accepted. -/
theorem SubsInv.born_of_handler (inv : SubsInv s) {handler : HandlerPc}
    (here : (s.clients c).handler = handler) (busy : handler ≠ .idle) : c < s.server.nextConn := by
  apply inv.born
  intro new
  rw [new] at here
  exact busy here.symm

/-- Where the decrement of `g_sub_adv_count` may lead. -/
theorem fits_afterAdv {client : Client} {pos : Option ConnAt} {leaving : Bool}
    (fits : client.Fits pos) (here : client.handler = .subAdv leaving ∨ client.handler = .stop leaving)
    (handler : HandlerPc) (next : handler = .stop leaving ∨ handler = .afterAdv leaving) :
    Client.Fits ⟨client.subs, handler⟩ pos := by
  have noAdv : client.subs.subAdv = false := by
    rcases here with pc | pc <;> simpa [Client.flagsOk, pc] using fits.flags
  cases leaving with
  | false =>
      have isRunning : pos = some .running := by
        rcases here with pc | pc <;> exact fits.running (by rw [pc]; rfl) (by rw [pc]; decide)
      rcases next with rfl | rfl
      · exact ⟨by simp [Client.flagsOk, noAdv], by rw [isRunning]; rfl⟩
      · exact ⟨rfl, by rw [isRunning]; rfl⟩
  | true =>
      have isReleasing : pos = some .releasing := by
        rcases here with pc | pc <;>
          exact fits.releasing (by rw [pc]; rfl) (by rw [pc]; decide) (by rw [pc]; decide)
      rcases next with rfl | rfl
      · exact ⟨by simp [Client.flagsOk, noAdv], by rw [isReleasing]; rfl⟩
      · exact ⟨by simp [Client.flagsOk, HandlerPc.afterAdv, noAdv], by rw [isReleasing]; rfl⟩

/-- The subscriber enters `g_sub_adv_count`, whether or not the edge calls for a start. -/
theorem subs_addAdv (inv : SubsInv s) (pc : (s.clients c).handler = .addAdv) :
    SubsInv (addAdv s c) := by
  have fits := inv.fits c
  have pos := fits.running (by rw [pc]; rfl) (by rw [pc]; decide)
  have flag : (s.clients c).subs.subAdv = true := by simpa [Client.flagsOk, pc] using fits.flags
  have next : ∀ handler, handler = .start ∨ handler = .idle →
      SubsInv { s.setClient c ⟨(s.clients c).subs, handler⟩ with
        subAdvCount := s.subAdvCount + 1 } := by
    rintro _ (rfl | rfl)
    all_goals
      refine inv.client (inv.born_of_handler pc (by decide)) _ rfl rfl ⟨?_, by rw [pos]; rfl⟩ ?_ ?_
      · simp [Client.flagsOk, flag]
      · simp [Client.advIn, pc, flag]
      · simp [Client.freeIn, pc, State.setClient]
  exact next _ (by split <;> simp)

/-- The subscriber leaves `g_sub_adv_count`, whether or not the edge calls for a stop. -/
theorem subs_subAdv {leaving : Bool} (inv : SubsInv s)
    (pc : (s.clients c).handler = .subAdv leaving) : SubsInv (subAdv s c leaving) := by
  have fits := inv.fits c
  have noAdv : (s.clients c).subs.subAdv = false := by simpa [Client.flagsOk, pc] using fits.flags
  have next : ∀ handler, handler = .stop leaving ∨ handler = .afterAdv leaving →
      SubsInv { s.setClient c ⟨(s.clients c).subs, handler⟩ with
        subAdvCount := s.subAdvCount - 1 } := by
    intro handler isNext
    refine inv.client (inv.born_of_handler pc (by simp)) _ rfl rfl
      (fits_afterAdv fits (.inl pc) handler isNext) ?_ ?_
    · have out : Client.advIn ⟨(s.clients c).subs, handler⟩ = false := by
        rcases isNext with rfl | rfl
        · exact noAdv
        · cases leaving <;> exact noAdv
      have in_ : (s.clients c).advIn = true := by simp [Client.advIn, pc]
      rw [out, in_]
      simp
    · have same : Client.freeIn ⟨(s.clients c).subs, handler⟩ = (s.clients c).subs.subFree := by
        rcases isNext with rfl | rfl
        · rfl
        · cases leaving <;> rfl
      have before : (s.clients c).freeIn = (s.clients c).subs.subFree := by
        simp [Client.freeIn, pc]
      rw [same, before]
      rfl
  exact next _ (by split <;> simp)

theorem subs_step (reg : RegInv s.server) (inv : SubsInv s) (a : Action) (guard : Guard s a) :
    SubsInv (effect s a) := by
  cases a with
  | server a => exact subs_server inv a guard.1 guard.2
  | subscribeAdv c =>
      obtain ⟨pos, idle⟩ := guard
      simp only [effect, subscribeAdv]
      split
      · exact inv
      · rename_i flag
        refine inv.client (born_of_pos reg pos) _ rfl rfl ⟨rfl, by rw [pos]; rfl⟩ ?_ ?_
        · simp [Client.advIn, idle, flag, State.setClient]
        · simp [Client.freeIn, idle, State.setClient]
  | unsubscribeAdv c =>
      obtain ⟨pos, idle⟩ := guard
      simp only [effect, unsubscribeAdv]
      split
      · rename_i flag
        refine inv.client (born_of_pos reg pos) _ rfl rfl ⟨rfl, by rw [pos]; rfl⟩ ?_ ?_
        · simp [Client.advIn, idle, flag, State.setClient]
        · simp [Client.freeIn, idle, State.setClient]
      · exact inv
  | subscribeFree c =>
      obtain ⟨pos, idle⟩ := guard
      simp only [effect, subscribeFree]
      split
      · exact inv
      · rename_i flag
        refine inv.client (born_of_pos reg pos) _ rfl rfl ⟨rfl, by rw [pos]; rfl⟩ ?_ ?_
        · simp [Client.advIn, idle, State.setClient]
        · simp [Client.freeIn, idle, flag, State.setClient]
  | addAdv c => exact subs_addAdv inv guard
  | startForwarding c =>
      have pc : (s.clients c).handler = .start := guard
      have pos := (inv.fits c).running (by rw [pc]; rfl) (by rw [pc]; decide)
      refine subs_handler inv (inv.born_of_handler pc (by decide)) .idle
        ⟨rfl, by rw [pos]; rfl⟩ ?_ ?_ true
      · simp [Client.advIn, pc]
      · simp [Client.freeIn, pc]
  | subAdv c leaving => exact subs_subAdv inv guard
  | stopForwarding c leaving =>
      have pc : (s.clients c).handler = .stop leaving := guard
      have fits := fits_afterAdv (inv.fits c) (.inr pc) (.afterAdv leaving) (.inr rfl)
      refine subs_handler inv (inv.born_of_handler pc (by simp)) _ fits ?_ ?_ false
      · cases leaving <;> simp [Client.advIn, pc, HandlerPc.afterAdv]
      · cases leaving <;> simp [Client.freeIn, pc, HandlerPc.afterAdv]
  | addFree c =>
      have pc : (s.clients c).handler = .addFree := guard
      have fits := inv.fits c
      have pos := fits.running (by rw [pc]; rfl) (by rw [pc]; decide)
      have flag : (s.clients c).subs.subFree = true := by simpa [Client.flagsOk, pc] using fits.flags
      refine inv.client (inv.born_of_handler pc (by decide)) _ rfl rfl ⟨rfl, by rw [pos]; rfl⟩ ?_ ?_
      · simp [Client.advIn, pc, effect, addFree, State.setClient]
      · simp [Client.freeIn, pc, flag, effect, addFree]
  | leaveAdv c =>
      obtain ⟨pos, idle⟩ := guard
      simp only [effect, leaveAdv]
      split
      · rename_i flag
        refine inv.client (born_of_pos reg pos) _ rfl rfl ⟨rfl, by rw [pos]; rfl⟩ ?_ ?_
        · simp [Client.advIn, idle, flag, State.setClient]
        · simp [Client.freeIn, idle, State.setClient]
      · rename_i flag
        refine inv.client (born_of_pos reg pos) _ rfl rfl
          ⟨by simp [Client.flagsOk, flag], by rw [pos]; rfl⟩ ?_ ?_
        · simp [Client.advIn, idle, State.setClient]
        · simp [Client.freeIn, idle, State.setClient]
  | leaveFree c =>
      have pc : (s.clients c).handler = .leaveFree := guard
      have fits := inv.fits c
      have pos := fits.releasing (by rw [pc]; rfl) (by rw [pc]; decide) (by rw [pc]; decide)
      have noAdv : (s.clients c).subs.subAdv = false := by simpa [Client.flagsOk, pc] using fits.flags
      have born := inv.born_of_handler pc (by decide)
      simp only [effect, leaveFree]
      split
      · rename_i flag
        refine inv.client born _ rfl rfl ⟨by simp [Client.flagsOk, noAdv], by rw [pos]; rfl⟩ ?_ ?_
        · simp [Client.advIn, pc, State.setClient]
        · simp [Client.freeIn, pc, flag, State.setClient]
      · rename_i flag
        refine inv.client born _ rfl rfl ⟨by simp [Client.flagsOk, noAdv, flag], by rw [pos]; rfl⟩ ?_ ?_
        · simp [Client.advIn, pc, State.setClient]
        · simp [Client.freeIn, pc, State.setClient]
  | subFree c =>
      have pc : (s.clients c).handler = .subFree := guard
      have fits := inv.fits c
      have pos := fits.releasing (by rw [pc]; rfl) (by rw [pc]; decide) (by rw [pc]; decide)
      have none_ : (s.clients c).subs.subAdv = false ∧ (s.clients c).subs.subFree = false := by
        simpa [Client.flagsOk, pc] using fits.flags
      refine inv.client (inv.born_of_handler pc (by decide)) _ rfl rfl
        ⟨by simp [Client.flagsOk, none_], by rw [pos]; rfl⟩ ?_ ?_
      · simp [Client.advIn, pc, effect, subFree, State.setClient]
      · simp [Client.freeIn, pc, none_, effect, subFree]
  | teardownStop c =>
      obtain ⟨pos, pc⟩ := guard
      have none_ : (s.clients c).subs.subAdv = false ∧ (s.clients c).subs.subFree = false := by
        simpa [Client.flagsOk, pc] using (inv.fits c).flags
      refine subs_handler inv (born_of_pos reg pos) .tornDown
        ⟨by simp [Client.flagsOk, none_], by rw [pos]; rfl⟩ ?_ ?_ false
      · simp [Client.advIn, pc]
      · simp [Client.freeIn, pc]

end

theorem subs_reachable {s : State} (path : system.Reachable s) : SubsInv s :=
  path.invariant_with (fun _ => server_reachable) subsInv_init
    fun _ a reg inv guard => subs_step reg inv a guard

/-! ## What the counters say -/

/-- Some handler is between two of its steps. -/
def HandlerMidway (s : State) : Prop :=
  ∃ c, (s.clients c).handler.atRest = false

/-- The number of registered connections with the flag set. -/
def subscribers (s : State) (flag : ClientSubs → Bool) : Nat :=
  tally (Finset.range s.server.nextConn) fun c =>
    IsAt s.server ConnAt.registered c ∧ flag (s.clients c).subs = true

theorem atRest_of_not_midway {s : State} (rest : ¬ HandlerMidway s) (c : ConnId) :
    (s.clients c).handler.atRest = true := by
  by_contra busy
  exact rest ⟨c, by simpa using busy⟩

/-- With the handlers at rest a client counts exactly if it is connected with its flag set. -/
theorem clientsWith_eq_subscribers {s : State} (inv : SubsInv s) {p : Client → Bool}
    {flag : ClientSubs → Bool}
    (atRest : ∀ client : Client, client.handler.atRest = true → p client = flag client.subs)
    (flagged : ∀ subs : ClientSubs, flag subs = true → subs.subAdv = true ∨ subs.subFree = true)
    (rest : ¬ HandlerMidway s) : clientsWith s p = subscribers s flag := by
  apply tally_congr
  intro c _
  rw [atRest _ (atRest_of_not_midway rest c)]
  constructor
  · intro set
    refine ⟨?_, set⟩
    have served := (inv.fits c).served (flagged _ set)
    unfold IsAt
    cases held : s.server.conns c with
    | none => simp [State.pos, held] at served
    | some at_ =>
        simp only [State.pos, held, Option.map_some, Option.some.injEq] at served
        rcases served with pos | pos <;> simp [pos, ConnAt.registered]
  · exact And.right

theorem SubsInv.subAdvCount_eq {s : State} (inv : SubsInv s) (rest : ¬ HandlerMidway s) :
    s.subAdvCount = subscribers s ClientSubs.subAdv := by
  rw [inv.adv, clientsWith_eq_subscribers inv ?_ (fun _ => .inl) rest]
  intro client atRest
  unfold Client.advIn
  cases pc : client.handler <;> simp_all [HandlerPc.atRest]

theorem SubsInv.subFreeCount_eq {s : State} (inv : SubsInv s) (rest : ¬ HandlerMidway s) :
    s.subFreeCount = subscribers s ClientSubs.subFree := by
  rw [inv.free, clientsWith_eq_subscribers inv ?_ (fun _ => .inr) rest]
  intro client atRest
  unfold Client.freeIn
  cases pc : client.handler <;> simp_all [HandlerPc.atRest]

/-- **The subscription counters are exact.** They are never negative; with no
handler midway each is the number of connected clients whose flag is set; and a
repeated subscribe or unsubscribe changes nothing. -/
theorem subscription_counters_exact (s : State) (path : system.Reachable s) :
    0 ≤ s.subAdvCount ∧ 0 ≤ s.subFreeCount ∧
    (¬ HandlerMidway s → s.subAdvCount = subscribers s ClientSubs.subAdv ∧
      s.subFreeCount = subscribers s ClientSubs.subFree) ∧
    (∀ c, (s.clients c).subs.subAdv = true → effect s (.subscribeAdv c) = s) ∧
    (∀ c, (s.clients c).subs.subAdv = false → effect s (.unsubscribeAdv c) = s) ∧
    (∀ c, (s.clients c).subs.subFree = true → effect s (.subscribeFree c) = s) := by
  have inv := subs_reachable path
  refine ⟨?_, ?_, ?_, ?_, ?_, ?_⟩
  · rw [inv.adv]
    exact Int.natCast_nonneg _
  · rw [inv.free]
    exact Int.natCast_nonneg _
  · intro rest
    exact ⟨inv.subAdvCount_eq rest, inv.subFreeCount_eq rest⟩
  · intro c set
    simp only [effect, subscribeAdv, set, if_true]
  · intro c clear
    simp only [effect, unsubscribeAdv, clear, Bool.false_eq_true, if_false]
  · intro c set
    simp only [effect, subscribeFree, set, if_true]

/-- Two clients are accepted and served. -/
def twoClientsSchedule : List Action :=
  [.server (.accept 5), .server (.registerClient 0 5), .server (.countClient 0 5),
   .server (.createTask 0 5 true), .server (.accept 6), .server (.registerClient 1 6),
   .server (.countClient 1 6), .server (.createTask 1 6 true)]

/-- Both subscribe, one of them twice and to the free slots too, and the other leaves. -/
def subscribeSchedule : List Action :=
  twoClientsSchedule ++
  ([.subscribeAdv 0, .subscribeAdv 1, .addAdv 1, .addAdv 0, .startForwarding 1, .subscribeAdv 0,
   .subscribeFree 0, .addFree 0, .server (.endLoop 1 6), .leaveAdv 1, .subAdv 1 true,
   .leaveFree 1] : List Action)

theorem subscription_counters_exact_leave :
    ∃ s, system.Reachable s ∧ s.subAdvCount = 1 ∧ s.subFreeCount = 1 ∧
      s.subAdvCount = subscribers s ClientSubs.subAdv ∧
      s.subFreeCount = subscribers s ClientSubs.subFree := by
  have path := system.reachable_final subscribeSchedule
  have rest : ¬ HandlerMidway (system.final subscribeSchedule) := by
    rintro ⟨c, busy⟩
    match c with
    | 0 => cases busy
    | 1 => cases busy
    | c + 2 => cases busy
  exact ⟨_, path, by decide, by decide, (subscription_counters_exact _ path).2.2.1 rest⟩

end NimbleProxy.Api.Subscriptions
