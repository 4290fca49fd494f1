/-
# Api.Reaping -- whose socket a failed broadcast shuts down

`send_async` remembers the fd numbers on which a send failed, lets go of
`g_tx_mutex`, and later shuts down those that are still in the table. The number
is all it compares. Between the failed send and the re-check the guilty
connection may leave and close, and the kernel may hand the number to a new
client who registers it: the re-check finds the number and shuts down the
wrong connection.

As long as no other connection is entered under a number on which a send has
failed (`RegistersGuilty`), a registered number still belongs to the connection
whose send failed (`DeadInv`), and every shutdown hits that one. Once one is
entered, the `send_async` may get to its re-check before anything else happens
(`send_goes_on`), and hits the wrong one.
-/
import NimbleProxy.Api.StreamIntegrity

namespace NimbleProxy.Api.Server

open NimbleProxy.Theory ActionSystem

set_option autoImplicit false

/-- A number on which a send failed, while it is registered, belongs to the
connection whose send failed. -/
def DeadInv (s : State) : Prop :=
  ∀ t, ∀ d ∈ (s.senders t).dead, ∀ i, s.clientFds i = some d.fd → s.openFds d.fd = d.guilty

/-- If this step enters an fd into the table, no `send_async` in progress has failed
on that number for another connection. -/
def RegistersGuilty (s : State) : Action → Prop
  | .registerClient c fd => s.clientFds.enter fd ≠ none →
      ∀ t, ∀ d ∈ (s.senders t).dead, d.fd = fd → d.guilty = some c
  | _ => True

section

variable {s s' : State}

/-- A step that enters nothing into the table and moves no socket of an entry. -/
theorem DeadInv.congr (dead : DeadInv s)
    (senders : ∀ t, ∀ d ∈ (s'.senders t).dead, d ∈ (s.senders t).dead ∨ d.guilty = s'.openFds d.fd)
    (entries : ∀ i fd, s'.clientFds i = some fd → s.clientFds i = some fd)
    (sockets : ∀ i fd, s.clientFds i = some fd → s'.openFds fd = s.openFds fd) : DeadInv s' := by
  intro t d inside i entry
  have before := entries i d.fd entry
  rcases senders t d inside with was | fresh
  · rw [sockets i d.fd before]
    exact dead t d was i before
  · exact fresh.symm

theorem FdTable.of_clear {fds : FdTable} {fd fd' : Fd} {i : Fin maxApiClients}
    (entry : fds.clear fd i = some fd') : fds i = some fd' := by
  simp only [FdTable.clear] at entry
  cases found : (List.finRange maxApiClients).find? fun i => decide (fds i = some fd) with
  | none =>
      rw [found] at entry
      exact entry
  | some j =>
      rw [found] at entry
      simp only [Function.update_apply] at entry
      split at entry
      · cases entry
      · exact entry

/-- A registered fd is the socket of a connection that has not left the table. -/
theorem RegInv.entry_of_conn (inv : RegInv s) {i : Fin maxApiClients} {c : ConnId} {pos : ConnAt}
    {fd : Fd} (entry : s.clientFds i = some fd) (held : s.conns c = some (pos, fd)) :
    pos.registered = true := by
  obtain ⟨d, posD, heldD, registered⟩ := inv.owned i fd entry
  have same : some d = some c := (inv.isOpen d posD fd heldD).symm.trans (inv.isOpen c pos fd held)
  rw [Option.some.inj same, held] at heldD
  obtain ⟨rfl, -⟩ := Prod.mk.inj (Option.some.inj heldD)
  exact registered

/-- Closing the socket of a connection that has left the table. -/
theorem dead_close (inv : RegInv s) (dead : DeadInv s) {c : ConnId} {pos : ConnAt} {fd : Fd}
    (held : s.conns c = some (pos, fd)) (gone : pos.registered = false)
    (senders : s'.senders = s.senders) (clientFds : s'.clientFds = s.clientFds)
    (openFds : s'.openFds = Function.update s.openFds fd none) : DeadInv s' := by
  refine dead.congr (fun t d inside => .inl (by rw [← senders]; exact inside))
    (fun i fd' entry => by rw [← clientFds]; exact entry) ?_
  intro i fd' entry
  have other : fd' ≠ fd := by
    rintro rfl
    rw [inv.entry_of_conn entry held] at gone
    cases gone
  rw [openFds, Function.update_of_ne other]

/-- A sender's step to a position with these failed sends. -/
theorem dead_sender (dead : DeadInv s) {t : SenderId} (pc : SenderPc)
    (inside : ∀ d ∈ pc.dead, d ∈ (s.senders t).dead ∨ d.guilty = s.openFds d.fd)
    (senders : s'.senders = Function.update s.senders t pc)
    (clientFds : s'.clientFds = s.clientFds) (openFds : s'.openFds = s.openFds) : DeadInv s' := by
  refine dead.congr ?_ (fun i fd entry => by rw [← clientFds]; exact entry)
    (fun i fd _ => by rw [openFds])
  intro u d insideU
  rw [senders, Function.update_apply] at insideU
  split at insideU
  · rename_i here
    subst here
    rw [openFds]
    exact inside d insideU
  · exact .inl insideU

theorem dead_registerClient (inv : RegInv s) (dead : DeadInv s) {c : ConnId} {fd : Fd}
    (held : s.conns c = some (.accepted, fd)) (guilty : RegistersGuilty s (.registerClient c fd)) :
    DeadInv (registerClient s c fd) := by
  unfold registerClient
  cases entered : s.clientFds.enter fd with
  | none => exact dead
  | some fds =>
      have guilty := guilty (by rw [entered]; exact Option.some_ne_none fds)
      obtain ⟨i, -, rfl⟩ := FdTable.enter_some entered
      intro t d inside j entry
      simp only [Function.update_apply] at entry
      split at entry
      · have isFd : d.fd = fd := (Option.some.inj entry).symm
        have isOpen := inv.isOpen c _ fd held
        rw [← isFd] at isOpen
        exact isOpen.trans (guilty t d inside isFd).symm
      · exact dead t d inside j entry

theorem dead_step (inv : RegInv s) (dead : DeadInv s) (a : Action) (guard : Guard s a)
    (guilty : RegistersGuilty s a) : DeadInv (effect s a) := by
  cases a with
  | accept fd =>
      refine dead.congr (fun _ _ inside => .inl inside) (fun _ _ entry => entry) ?_
      intro i fd' entry
      obtain ⟨c, pos, held, -⟩ := inv.owned i fd' entry
      have other : fd' ≠ fd := by
        rintro rfl
        have closed : s.openFds fd' = none := guard.2
        rw [inv.isOpen c pos fd' held] at closed
        cases closed
      simp only [effect, accept, Function.update_of_ne other]
  | registerClient c fd => exact dead_registerClient inv dead guard guilty
  | createUnregister c fd | unregister c fd =>
      exact dead.congr (fun _ _ inside => .inl inside) (fun _ _ entry => FdTable.of_clear entry)
        fun _ _ _ => rfl
  | refuse c fd | createClose c fd | close c fd => exact dead_close inv dead guard rfl rfl rfl rfl
  | createTask c fd created =>
      cases created <;>
        exact dead.congr (fun _ _ inside => .inl inside) (fun _ _ entry => entry) fun _ _ _ => rfl
  | countClient c fd | createDiscount c fd | endLoop c fd | released c fd | discount c fd
  | checkLast c fd | teardownDone c fd =>
      exact dead.congr (fun _ _ inside => .inl inside) (fun _ _ entry => entry) fun _ _ _ => rfl
  | sendStart t => exact dead_sender dead .begin (by simp [SenderPc.dead]) rfl rfl rfl
  | sendEncode t nonempty =>
      cases nonempty with
      | true => exact dead_sender dead .snapshot (by simp [SenderPc.dead]) rfl rfl rfl
      | false => exact dead_sender dead .idle (by simp [SenderPc.dead]) rfl rfl rfl
  | sendSnapshot t =>
      exact dead_sender dead (.sending s.clientFds.snapshot []) (by simp [SenderPc.dead]) rfl rfl
        rfl
  | sendOne t fd rest failed sent =>
      have isFailed : (s.senders t).dead = failed := by rw [guard.1]; rfl
      cases sent with
      | true =>
          exact dead_sender dead (.sending rest failed)
            (fun d inside => .inl (by rw [isFailed]; exact inside)) rfl rfl rfl
      | false =>
          refine dead_sender dead (.sending rest (failed ++ [⟨fd, s.openFds fd⟩])) ?_ rfl rfl rfl
          intro d inside
          rcases List.mem_append.mp inside with was | new
          · exact .inl (by rw [isFailed]; exact was)
          · have isNew : d = ⟨fd, s.openFds fd⟩ := List.mem_singleton.mp new
            exact .inr (by rw [isNew])
  | sendDone t failed =>
      have isFailed : (s.senders t).dead = failed := by rw [guard.1]; rfl
      refine dead_sender dead (if failed = [] then .idle else .reaping failed) ?_ rfl rfl rfl
      intro d inside
      split at inside
      · cases inside
      · exact .inl (by rw [isFailed]; exact inside)
  | reap t failed => exact dead_sender dead .idle (by simp [SenderPc.dead]) rfl rfl rfl

/-- Every shutdown logged so far hit the connection whose send failed. -/
def ReapsGuilty (s : State) : Prop :=
  ∀ r ∈ s.reaps, ∃ c, r.dead.guilty = some c ∧ r.hit = some c

theorem reapsGuilty_reap (inv : RegInv s) (dead : DeadInv s) {t : SenderId} {failed : List Dead}
    (pc : s.senders t = .reaping failed) :
    ∀ r ∈ reapsOf s failed, ∃ c, r.dead.guilty = some c ∧ r.hit = some c := by
  intro r logged
  simp only [reapsOf, List.mem_map, List.mem_filter, decide_eq_true_eq] at logged
  obtain ⟨d, ⟨inside, still⟩, rfl⟩ := logged
  obtain ⟨i, entry⟩ := FdTable.mem_snapshot.mp still
  obtain ⟨c, pos, held, -⟩ := inv.owned i d.fd entry
  have isOpen := inv.isOpen c pos d.fd held
  have guilty := dead t d (by rw [pc]; exact inside) i entry
  exact ⟨c, guilty.symm.trans isOpen, isOpen⟩

theorem reaps_step (a : Action) : (effect s a).reaps = s.reaps ∨
    ∃ t failed, a = .reap t failed ∧ (effect s a).reaps = s.reaps ++ reapsOf s failed := by
  cases a with
  | reap t failed => exact .inr ⟨t, failed, rfl, rfl⟩
  | registerClient c fd =>
      simp only [effect, registerClient]
      split <;> exact .inl rfl
  | createTask c fd created => cases created <;> exact .inl rfl
  | sendEncode t nonempty => cases nonempty <;> exact .inl rfl
  | accept fd | countClient c fd | refuse c fd | createUnregister c fd | createDiscount c fd
  | createClose c fd | endLoop c fd | released c fd | unregister c fd | discount c fd
  | checkLast c fd | teardownDone c fd | close c fd | sendStart t | sendSnapshot t
  | sendOne t fd rest failed sent | sendDone t failed => exact .inl rfl

end

theorem reaps_reachable {s : State} (path : system.ReachableWhen RegistersGuilty s) :
    DeadInv s ∧ ReapsGuilty s := by
  refine path.invariant_with (P := fun s => DeadInv s ∧ ReapsGuilty s) (fun _ => regInv_reachable)
    ⟨(fun _ _ inside => nomatch inside), (fun _ logged => nomatch logged)⟩ ?_
  rintro s a inv ⟨dead, reaps⟩ guard guilty
  refine ⟨dead_step inv dead a guard guilty, ?_⟩
  intro r logged
  rcases reaps_step (s := s) a with same | ⟨t, failed, rfl, more⟩
  · rw [show (system.effect s a).reaps = s.reaps from same] at logged
    exact reaps r logged
  · rw [show (system.effect s _).reaps = _ from more] at logged
    rcases List.mem_append.mp logged with before | new
    · exact reaps r before
    · exact reapsGuilty_reap inv dead guard r new

/-! ## A number that is taken over -/

section

variable {s : State} {t : SenderId} {d : Dead}

/-- A `send_async` with a failed send may go on to its re-check before anything else happens. -/
theorem send_goes_on {rest : List Fd} {dead : List Dead} (pc : s.senders t = .sending rest dead)
    (holds : s.txHolder = some t) (inside : d ∈ dead) :
    ∃ u failed, system.ReachableFrom always s u ∧ u.senders t = .reaping failed ∧ d ∈ failed ∧
      u.clientFds = s.clientFds ∧ u.openFds = s.openFds := by
  induction rest generalizing s dead with
  | nil =>
      have some_ : dead ≠ [] := List.ne_nil_of_mem inside
      have path : system.ReachableFrom always s (effect s (.sendDone t dead)) :=
        .head (Action.sendDone t dead) ⟨pc, holds⟩ trivial .refl
      refine ⟨_, dead, path, ?_, inside, rfl, rfl⟩
      simp only [effect, Function.update_self, if_neg some_]
  | cons fd rest ih =>
      -- the other sends fail, too
      have next : (effect s (.sendOne t fd rest dead false)).senders t =
          .sending rest (dead ++ [⟨fd, s.openFds fd⟩]) := Function.update_self ..
      obtain ⟨u, failed, path, reaping, mem, table, sockets⟩ :=
        ih next holds (List.mem_append_left _ inside)
      have failing : system.ReachableFrom always s u :=
        .head (Action.sendOne t fd rest dead false) ⟨pc, fun sent => absurd sent Bool.false_ne_true⟩ trivial path
      exact ⟨u, failed, failing, reaping, mem, table, sockets⟩

/-- A failed send on a number that has been taken over leads to a wrong shutdown. -/
theorem hits_other (send : SendInv s) (inside : d ∈ (s.senders t).dead) {i : Fin maxApiClients}
    (entry : s.clientFds i = some d.fd) (other : d.guilty ≠ s.openFds d.fd) :
    ∃ u, system.ReachableFrom always s u ∧ ¬ ReapsGuilty u := by
  obtain ⟨u, failed, path, reaping, mem, table, sockets⟩ : ∃ u failed,
      system.ReachableFrom always s u ∧ u.senders t = .reaping failed ∧ d ∈ failed ∧
      u.clientFds = s.clientFds ∧ u.openFds = s.openFds := by
    cases pc : s.senders t with
    | idle | begin | snapshot =>
        rw [pc] at inside
        cases inside
    | sending rest dead =>
        rw [pc] at inside
        exact send_goes_on pc ((send.holder t).mp (by rw [pc]; rfl)) inside
    | reaping dead =>
        rw [pc] at inside
        exact ⟨s, dead, .refl, pc, inside, rfl, rfl⟩
  refine ⟨_, path.step (Action.reap t failed) reaping trivial, fun right => ?_⟩
  have listed : d.fd ∈ u.clientFds.snapshot := by
    rw [table]
    exact FdTable.mem_snapshot.mpr ⟨i, entry⟩
  have logged : (⟨d, u.openFds d.fd⟩ : Reap) ∈ (effect u (.reap t failed)).reaps := by
    show _ ∈ u.reaps ++ reapsOf u failed
    refine List.mem_append_right _ (List.mem_map.mpr ⟨d, ?_, rfl⟩)
    exact List.mem_filter.mpr ⟨mem, decide_eq_true listed⟩
  obtain ⟨c, guilty, hit⟩ := right _ logged
  rw [sockets] at hit
  exact other (guilty.trans hit.symm)

end

/-- **Reaping hits the guilty connection, as long as no other connection is entered under
its number before the re-check.** Once one is, the shutdown can hit the newcomer. -/
theorem shutdown_hits_guilty (s : State) :
    (system.ReachableWhen RegistersGuilty s → ReapsGuilty s) ∧
      ∀ a, system.Reachable s → system.Guard s a → ¬ RegistersGuilty s a →
        ∃ u, system.ReachableFrom always (system.effect s a) u ∧ ¬ ReapsGuilty u := by
  refine ⟨fun path => (reaps_reachable path).2, fun a path guard against => ?_⟩
  cases a with
  | registerClient c fd =>
      have reg : RegInv s := regInv_reachable path
      have send : SendInv (effect s (.registerClient c fd)) := sendInv_reachable (path.step _ guard)
      simp only [RegistersGuilty, Classical.not_imp, not_forall] at against
      obtain ⟨room, t, d, inside, rfl, other⟩ := against
      obtain ⟨fds, entered⟩ := Option.ne_none_iff_exists'.mp room
      obtain ⟨i, -, isFds⟩ := FdTable.enter_some entered
      have next : effect s (.registerClient c d.fd) =
          { s.moveTo c .counting d.fd with clientFds := fds } := by
        simp only [effect, registerClient, entered]
      show ∃ u, system.ReachableFrom always (effect s (.registerClient c d.fd)) u ∧ _
      rw [next] at send ⊢
      refine hits_other send inside (i := i) ?_ ?_
      · show fds i = some d.fd
        rw [isFds, Function.update_self]
      · show d.guilty ≠ s.openFds d.fd
        rw [reg.isOpen c _ d.fd guard]
        exact other
  | _ => exact absurd trivial against

/-- Whether a step enters an fd into the table. -/
def Action.registers : Action → Bool
  | .registerClient _ _ => true
  | _ => false

/-- A client is served and a broadcast to it fails. -/
def failedSendSchedule : List Action :=
  [.countClient 0 5, .createTask 0 5 true, .sendStart 0, .sendEncode 0 true, .sendSnapshot 0,
   .sendOne 0 5 [] [] false, .sendDone 0 [⟨5, some 0⟩]]

theorem shutdown_hits_guilty_once :
    ∃ s, system.ReachableWhen RegistersGuilty s ∧ s.reaps = [⟨⟨5, some 0⟩, some 0⟩] ∧
      ReapsGuilty s := by
  -- nobody is sending when the client registers, and nobody registers after that
  have entered : system.ReachableWhen RegistersGuilty (system.final [.accept 5, .registerClient 0 5]) :=
    .head (Action.accept 5) ⟨rfl, rfl⟩ trivial
      (.head (Action.registerClient 0 5) rfl (fun _ _ _ inside => nomatch inside) .refl)
  have later := system.reachable_finalFrom (fun _ a => a.registers = false)
    (system.final [.accept 5, .registerClient 0 5]) (failedSendSchedule ++ [.reap 0 [⟨5, some 0⟩]])
  have weaker : ∀ s a, Action.registers a = false → RegistersGuilty s a := by
    intro s a quiet
    cases a with
    | registerClient c fd => cases quiet
    | _ => trivial
  have path := entered.trans (later.mono weaker)
  exact ⟨_, path, by decide, (shutdown_hits_guilty _).1 path⟩

/-- The guilty client leaves and a new one gets its number before the re-check. -/
def reissueSchedule : List Action :=
  ([.accept 5, .registerClient 0 5] : List Action) ++ failedSendSchedule ++
  ([.endLoop 0 5, .released 0 5, .unregister 0 5, .discount 0 5, .checkLast 0 5, .teardownDone 0 5,
   .close 0 5, .accept 5, .registerClient 1 5, .reap 0 [⟨5, some 0⟩]] : List Action)

theorem shutdown_hits_newcomer :
    ∃ s, system.Reachable s ∧ s.reaps = [⟨⟨5, some 0⟩, some 1⟩] :=
  ⟨_, system.reachable_final reissueSchedule, by decide⟩

end NimbleProxy.Api.Server
