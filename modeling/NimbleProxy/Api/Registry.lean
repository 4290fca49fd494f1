/-
# Api.Registry -- the client table and the client count under every interleaving

`RegInv` ties the table, the kernel's open sockets and the positions of the
connections together: an entry belongs to exactly one connection that is between
its registration and its removal, and `g_active_count` is the number (modulo the
width of the counter) of connections between their increment and their
decrement.

A step moves one connection. It leaves the table alone (`RegInv.advance`), enters
or clears the connection's fd (`inv_registerClient`, `inv_unregisterClient`),
closes it (`inv_closeConn`) or accepts a new one (`inv_accept`).
-/
import NimbleProxy.Api.Server

namespace NimbleProxy.Api.Server

open NimbleProxy.Theory

set_option autoImplicit false

/-! ## The invariant -/

/-- Connection `c` is at a position that satisfies `p`. -/
def IsAt (s : State) (p : ConnAt → Bool) (c : ConnId) : Prop :=
  (s.conns c).any (fun at_ => p at_.1) = true

instance (s : State) (p : ConnAt → Bool) : DecidablePred (IsAt s p) :=
  fun _ => inferInstanceAs (Decidable (_ = true))

/-- How many connections are at a position that satisfies `p`. -/
def connsAt (s : State) (p : ConnAt → Bool) : Nat :=
  tally (Finset.range s.nextConn) (IsAt s p)

structure RegInv (s : State) : Prop where
  once : ∀ i j fd, s.clientFds i = some fd → s.clientFds j = some fd → i = j
  owned : ∀ i fd, s.clientFds i = some fd →
    ∃ c pos, s.conns c = some (pos, fd) ∧ pos.registered = true
  listed : ∀ c pos fd, s.conns c = some (pos, fd) → pos.registered = true →
    ∃ i, s.clientFds i = some fd
  isOpen : ∀ c pos fd, s.conns c = some (pos, fd) → s.openFds fd = some c
  known : ∀ c pos fd, s.conns c = some (pos, fd) → c < s.nextConn
  listening : ∀ c pos fd, s.conns c = some (pos, fd) → pos.ofListener = true → s.listener = some c
  entries : s.clientFds.registered = connsAt s ConnAt.registered
  count : s.activeCount = UInt8.ofNat (connsAt s ConnAt.counted)

theorem regInv_init : RegInv ({} : State) := by
  constructor <;> simp [connsAt, tally, FdTable.registered]

section

variable {s s' : State} {c : ConnId} {fd : Fd} {pos pos' : ConnAt}

theorem isAt_of_conn {p : ConnAt → Bool} (held : s.conns c = some (pos, fd)) :
    IsAt s p c ↔ p pos = true := by
  simp [IsAt, held]

/-- The number of connections at `p` moves with the one connection that moves. -/
theorem connsAt_move (s' : State) (p : ConnAt → Bool) (known : c < s.nextConn)
    (held : s.conns c = some (pos, fd)) (next : Option (ConnAt × Fd))
    (conns : s'.conns = Function.update s.conns c next) (nextConn : s'.nextConn = s.nextConn) :
    connsAt s' p + (if p pos = true then 1 else 0) =
      connsAt s p + if next.any (fun at_ => p at_.1) = true then 1 else 0 := by
  have moved := tally_change (S := Finset.range s.nextConn) (p := IsAt s p) (q := IsAt s' p)
    (Finset.mem_range.mpr known) (by
      intro d other
      simp only [IsAt, conns, Function.update_of_ne other])
  unfold connsAt
  rw [nextConn]
  simpa only [IsAt, conns, Function.update_self, held, Option.any_some] using moved

/-- A step that moves no connection and no entry. -/
theorem RegInv.congr (inv : RegInv s) (clientFds : s'.clientFds = s.clientFds)
    (activeCount : s'.activeCount = s.activeCount) (openFds : s'.openFds = s.openFds)
    (nextConn : s'.nextConn = s.nextConn) (conns : s'.conns = s.conns)
    (listener : s'.listener = s.listener) : RegInv s' := by
  have same : ∀ p, connsAt s' p = connsAt s p := by
    intro p
    unfold connsAt
    rw [nextConn]
    exact tally_congr fun c _ => by simp only [IsAt, conns]
  obtain ⟨once, owned, listed, isOpen, known, listening, entries, count⟩ := inv
  refine ⟨?_, ?_, ?_, ?_, ?_, ?_, ?_, ?_⟩
  · rw [clientFds]; exact once
  · rw [clientFds, conns]; exact owned
  · rw [clientFds, conns]; exact listed
  · rw [conns, openFds]; exact isOpen
  · rw [conns, nextConn]; exact known
  · rw [conns, listener]; exact listening
  · rw [clientFds, same]; exact entries
  · rw [activeCount, same]; exact count

/-- A connection other than the one that moves, and its fd. -/
theorem RegInv.other (inv : RegInv s) (held : s.conns c = some (pos, fd)) {d : ConnId}
    {posD : ConnAt} {fdD : Fd} (heldD : s.conns d = some (posD, fdD)) (other : d ≠ c) :
    fdD ≠ fd := by
  rintro rfl
  have same : some d = some c := (inv.isOpen d _ _ heldD).symm.trans (inv.isOpen c _ _ held)
  exact other (Option.some.inj same)

/-- A connection after `c` moved to `next`: `c` itself, or another unchanged. -/
theorem conns_update {next : Option (ConnAt × Fd)} {d : ConnId} {posD : ConnAt} {fdD : Fd}
    (conns : s'.conns = Function.update s.conns c next) (heldD : s'.conns d = some (posD, fdD)) :
    (d = c ∧ next = some (posD, fdD)) ∨ (d ≠ c ∧ s.conns d = some (posD, fdD)) := by
  rw [conns, Function.update_apply] at heldD
  split at heldD
  · rename_i here
    exact .inl ⟨here, heldD⟩
  · rename_i other
    exact .inr ⟨other, heldD⟩

/-- Connection `c` with descriptor `fd` goes to `next`, keeping its descriptor or
closing it; table and count aside, the invariant holds again. -/
structure Steps (s s' : State) (c : ConnId) (fd : Fd) (next : Option (ConnAt × Fd)) : Prop where
  conns : s'.conns = Function.update s.conns c next
  nextConn : s'.nextConn = s.nextConn
  keeps : ∀ pos' fd', next = some (pos', fd') → fd' = fd ∧ s'.openFds fd = some c ∧
    (pos'.ofListener = true → s'.listener = some c)
  openFds : ∀ fd', fd' ≠ fd → s'.openFds fd' = s.openFds fd'
  listener : ∀ d, d ≠ c → s.listener = some d → s'.listener = some d

theorem RegInv.step (inv : RegInv s) (held : s.conns c = some (pos, fd))
    (next : Option (ConnAt × Fd)) (steps : Steps s s' c fd next)
    (once : ∀ i j fd, s'.clientFds i = some fd → s'.clientFds j = some fd → i = j)
    (owned : ∀ i fd, s'.clientFds i = some fd →
      ∃ c pos, s'.conns c = some (pos, fd) ∧ pos.registered = true)
    (listed : ∀ c pos fd, s'.conns c = some (pos, fd) → pos.registered = true →
      ∃ i, s'.clientFds i = some fd)
    (entries : s'.clientFds.registered = connsAt s' ConnAt.registered)
    (count : s'.activeCount = UInt8.ofNat (connsAt s' ConnAt.counted)) : RegInv s' := by
  refine ⟨once, owned, listed, ?_, ?_, ?_, entries, count⟩
  · intro d posD fdD heldD
    rcases conns_update steps.conns heldD with ⟨rfl, isNext⟩ | ⟨other, before⟩
    · obtain ⟨rfl, opened, -⟩ := steps.keeps posD fdD isNext
      exact opened
    · rw [steps.openFds fdD (inv.other held before other)]
      exact inv.isOpen d posD fdD before
  · intro d posD fdD heldD
    rw [steps.nextConn]
    rcases conns_update steps.conns heldD with ⟨rfl, -⟩ | ⟨-, before⟩
    · exact inv.known d pos fd held
    · exact inv.known d posD fdD before
  · intro d posD fdD heldD byListener
    rcases conns_update steps.conns heldD with ⟨rfl, isNext⟩ | ⟨other, before⟩
    · exact (steps.keeps posD fdD isNext).2.2 byListener
    · exact steps.listener d other (inv.listening d posD fdD before byListener)

/-- A connection moves on, stays in the table or stays out of it, or leaves for good
after it left the table. -/
theorem RegInv.advance (inv : RegInv s) (held : s.conns c = some (pos, fd))
    (next : Option (ConnAt × Fd)) (steps : Steps s s' c fd next)
    (same : next.any (fun at_ => at_.1.registered) = pos.registered)
    (clientFds : s'.clientFds = s.clientFds)
    (count : s'.activeCount = UInt8.ofNat (connsAt s' ConnAt.counted)) : RegInv s' := by
  refine inv.step held next steps ?_ ?_ ?_ ?_ count
  · rw [clientFds]; exact inv.once
  · intro i fdI entry
    rw [clientFds] at entry
    obtain ⟨d, posD, heldD, regD⟩ := inv.owned i fdI entry
    by_cases here : d = c
    · subst here
      obtain ⟨rfl, rfl⟩ := Prod.mk.inj (Option.some.inj (heldD.symm.trans held))
      rw [regD, Option.any_eq_true] at same
      obtain ⟨⟨pos', fd'⟩, isNext, regNext⟩ := same
      obtain ⟨rfl, -⟩ := steps.keeps pos' fd' isNext
      exact ⟨d, pos', by rw [steps.conns, Function.update_self]; exact isNext, regNext⟩
    · exact ⟨d, posD, by rw [steps.conns, Function.update_of_ne here]; exact heldD, regD⟩
  · intro d posD fdD heldD regD
    rw [clientFds]
    rcases conns_update steps.conns heldD with ⟨rfl, rfl⟩ | ⟨-, before⟩
    · obtain ⟨rfl, -⟩ := steps.keeps posD fdD rfl
      exact inv.listed d pos fdD held (same.symm.trans regD)
    · exact inv.listed d posD fdD before regD
  · have moved := connsAt_move s' ConnAt.registered (inv.known c pos fd held) held next steps.conns
      steps.nextConn
    rw [same] at moved
    rw [clientFds, inv.entries]
    omega

/-- A connection whose counting does not change. -/
theorem RegInv.count_same (inv : RegInv s) (pos' : ConnAt) (held : s.conns c = some (pos, fd))
    (same : pos'.counted = pos.counted) (nextConn : s'.nextConn = s.nextConn)
    (conns : s'.conns = Function.update s.conns c (some (pos', fd)))
    (activeCount : s'.activeCount = s.activeCount) :
    s'.activeCount = UInt8.ofNat (connsAt s' ConnAt.counted) := by
  have moved := connsAt_move s' ConnAt.counted (inv.known c pos fd held) held (some (pos', fd)) conns
    nextConn
  simp only [Option.any_some, same] at moved
  rw [activeCount, inv.count]
  congr 1
  omega

/-- `g_active_count.fetch_add(1)`. -/
theorem RegInv.count_add (inv : RegInv s) (pos' : ConnAt) (held : s.conns c = some (pos, fd))
    (before : pos.counted = false) (after : pos'.counted = true)
    (nextConn : s'.nextConn = s.nextConn)
    (conns : s'.conns = Function.update s.conns c (some (pos', fd)))
    (activeCount : s'.activeCount = s.activeCount + 1) :
    s'.activeCount = UInt8.ofNat (connsAt s' ConnAt.counted) := by
  have moved := connsAt_move s' ConnAt.counted (inv.known c pos fd held) held (some (pos', fd)) conns
    nextConn
  simp only [Option.any_some, before, after, Bool.false_eq_true, if_true, if_false,
    Nat.add_zero] at moved
  rw [activeCount, inv.count, moved]
  simp

/-- `g_active_count.fetch_sub(1)`. -/
theorem RegInv.count_sub (inv : RegInv s) (pos' : ConnAt) (held : s.conns c = some (pos, fd))
    (before : pos.counted = true) (after : pos'.counted = false)
    (nextConn : s'.nextConn = s.nextConn)
    (conns : s'.conns = Function.update s.conns c (some (pos', fd)))
    (activeCount : s'.activeCount = s.activeCount - 1) :
    s'.activeCount = UInt8.ofNat (connsAt s' ConnAt.counted) := by
  have moved := connsAt_move s' ConnAt.counted (inv.known c pos fd held) held (some (pos', fd)) conns
    nextConn
  simp only [Option.any_some, before, after, Bool.false_eq_true, if_true, if_false,
    Nat.add_zero] at moved
  rw [activeCount, inv.count, ← moved]
  simp

/-- A step to `pos'` that touches neither sockets nor listener. -/
theorem RegInv.steps_to (inv : RegInv s) (pos' : ConnAt) (held : s.conns c = some (pos, fd))
    (mine : pos'.ofListener = true → s.listener = some c)
    (conns : s'.conns = Function.update s.conns c (some (pos', fd)))
    (nextConn : s'.nextConn = s.nextConn) (openFds : s'.openFds = s.openFds)
    (listener : s'.listener = s.listener) : Steps s s' c fd (some (pos', fd)) := by
  refine ⟨conns, nextConn, ?_, ?_, ?_⟩
  · rintro _ _ ⟨rfl, rfl⟩
    rw [openFds, listener]
    exact ⟨rfl, inv.isOpen c pos fd held, mine⟩
  · intro fd' _
    rw [openFds]
  · intro d _ busy
    rw [listener]
    exact busy

/-- A connection that moves while table, count, sockets and listener stay. -/
theorem inv_moveTo (inv : RegInv s) (held : s.conns c = some (pos, fd))
    (registered : pos'.registered = pos.registered) (counted : pos'.counted = pos.counted)
    (mine : pos'.ofListener = true → s.listener = some c) : RegInv (s.moveTo c pos' fd) :=
  inv.advance held _ (inv.steps_to _ held mine rfl rfl rfl rfl) registered rfl
    (inv.count_same _ held counted rfl rfl rfl)

theorem inv_registerClient (inv : RegInv s) (held : s.conns c = some (.accepted, fd)) :
    RegInv (registerClient s c fd) := by
  unfold registerClient
  have mine := inv.listening c _ fd held rfl
  cases entered : s.clientFds.enter fd with
  | none => exact inv_moveTo inv held rfl rfl fun _ => mine
  | some fds =>
      obtain ⟨i, unused, rfl⟩ := FdTable.enter_some entered
      -- a registered connection is not `c`, so it has another fd
      have notC : ∀ d posD fdD, s.conns d = some (posD, fdD) → posD.registered = true → d ≠ c := by
        rintro d posD fdD heldD regD rfl
        obtain ⟨rfl, -⟩ := Prod.mk.inj (Option.some.inj (heldD.symm.trans held))
        cases regD
      have absent : ∀ j, s.clientFds j ≠ some fd := by
        intro j entry
        obtain ⟨d, posD, heldD, regD⟩ := inv.owned j fd entry
        exact inv.other held heldD (notC d posD fd heldD regD) rfl
      refine inv.step held (some (.counting, fd))
        (inv.steps_to .counting held (fun _ => mine) rfl rfl rfl rfl)
        ?_ ?_ ?_ ?_ (inv.count_same .counting held rfl rfl rfl rfl)
      · intro j k fd' entryJ entryK
        simp only [Function.update_apply] at entryJ entryK
        split at entryJ
        · split at entryK
          · rename_i hereJ hereK
            exact hereJ.trans hereK.symm
          · exact absurd (Option.some.inj entryJ ▸ entryK) (absent k)
        · split at entryK
          · exact absurd (Option.some.inj entryK ▸ entryJ) (absent j)
          · exact inv.once j k fd' entryJ entryK
      · intro j fd' entry
        simp only [Function.update_apply] at entry
        split at entry
        · exact ⟨c, .counting, by simp [State.moveTo, Option.some.inj entry], rfl⟩
        · obtain ⟨d, posD, heldD, regD⟩ := inv.owned j fd' entry
          have other := notC d posD fd' heldD regD
          exact ⟨d, posD, by simp only [State.moveTo, Function.update_of_ne other]; exact heldD, regD⟩
      · intro d posD fdD heldD regD
        rcases conns_update rfl heldD with ⟨-, isNext⟩ | ⟨-, before⟩
        · obtain ⟨-, rfl⟩ := Prod.mk.inj (Option.some.inj isNext)
          exact ⟨i, Function.update_self ..⟩
        · obtain ⟨j, entry⟩ := inv.listed d posD fdD before regD
          have other : j ≠ i := by
            rintro rfl
            rw [unused] at entry
            cases entry
          exact ⟨j, by simp only [Function.update_of_ne other]; exact entry⟩
      · have moved := connsAt_move ({ s.moveTo c .counting fd with
          clientFds := Function.update s.clientFds i (some fd) } : State) ConnAt.registered
          (inv.known c _ fd held) held (some (.counting, fd)) rfl rfl
        have grown := FdTable.registered_update s.clientFds i (some fd)
        simp [ConnAt.registered, unused] at moved grown
        rw [grown, moved, inv.entries]

theorem inv_unregisterClient (inv : RegInv s) (held : s.conns c = some (pos, fd))
    (registered : pos.registered = true) (gone : pos'.registered = false)
    (counted : pos'.counted = pos.counted)
    (mine : pos'.ofListener = true → s.listener = some c) :
    RegInv (unregisterClient s c fd pos') := by
  obtain ⟨i, entry⟩ := inv.listed c pos fd held registered
  have cleared := FdTable.clear_of_entry entry inv.once
  -- the entries left are those of the other fds
  have left_ : ∀ j fd', Function.update s.clientFds i none j = some fd' →
      s.clientFds j = some fd' ∧ fd' ≠ fd := by
    intro j fd' entryJ
    rw [Function.update_apply] at entryJ
    split at entryJ
    · cases entryJ
    · rename_i other
      refine ⟨entryJ, ?_⟩
      rintro rfl
      exact other (inv.once j i fd' entryJ entry)
  unfold unregisterClient
  rw [cleared]
  refine inv.step held (some (pos', fd))
    (inv.steps_to pos' held mine rfl rfl rfl rfl)
    ?_ ?_ ?_ ?_ (inv.count_same _ held counted rfl rfl rfl)
  · intro j k fd' entryJ entryK
    exact inv.once j k fd' (left_ j fd' entryJ).1 (left_ k fd' entryK).1
  · intro j fd' entryJ
    obtain ⟨entryBefore, notFd⟩ := left_ j fd' entryJ
    obtain ⟨d, posD, heldD, regD⟩ := inv.owned j fd' entryBefore
    have other : d ≠ c := by
      rintro rfl
      exact notFd (Prod.mk.inj (Option.some.inj (heldD.symm.trans held))).2
    exact ⟨d, posD, by simp only [State.moveTo, Function.update_of_ne other]; exact heldD, regD⟩
  · intro d posD fdD heldD regD
    rcases conns_update rfl heldD with ⟨-, isNext⟩ | ⟨other, before⟩
    · obtain ⟨rfl, -⟩ := Prod.mk.inj (Option.some.inj isNext)
      rw [gone] at regD
      cases regD
    · obtain ⟨j, entryJ⟩ := inv.listed d posD fdD before regD
      have notI : j ≠ i := by
        rintro rfl
        exact inv.other held before other (Option.some.inj (entryJ.symm.trans entry))
      exact ⟨j, by simp only [Function.update_of_ne notI]; exact entryJ⟩
  · have moved := connsAt_move ({ s.moveTo c pos' fd with
      clientFds := Function.update s.clientFds i none } : State) ConnAt.registered
      (inv.known c _ fd held) held (some (pos', fd)) rfl rfl
    have shrunk := FdTable.registered_update s.clientFds i none
    simp [registered, gone, entry] at moved shrunk
    have before := inv.entries
    exact Nat.succ.inj (shrunk.trans (before.trans moved.symm))

theorem inv_closeConn (inv : RegInv s) (held : s.conns c = some (pos, fd))
    (registered : pos.registered = false) (counted : pos.counted = false) (listener : Option ConnId)
    (others : ∀ d, d ≠ c → s.listener = some d → listener = some d) :
    RegInv { s.closeConn c fd with listener } := by
  refine inv.advance held none ⟨rfl, rfl, (fun _ _ h => nomatch h), ?_, others⟩
    registered.symm rfl ?_
  · intro fd' other
    simp only [State.closeConn, Function.update_of_ne other]
  · have moved := connsAt_move ({ s.closeConn c fd with listener } : State) ConnAt.counted
      (inv.known c _ fd held) held none rfl rfl
    simp [counted] at moved
    rw [moved]
    exact inv.count

/-- The next connection's number is not in use. -/
theorem RegInv.unborn (inv : RegInv s) : s.conns s.nextConn = none := by
  cases held : s.conns s.nextConn with
  | none => rfl
  | some at_ => exact absurd (inv.known _ at_.1 at_.2 held) (Nat.lt_irrefl _)

theorem accept_conns {d : ConnId} (born : d < s.nextConn) (fd : Fd) :
    (accept s fd).conns d = s.conns d :=
  Function.update_of_ne (Nat.ne_of_lt born) _ _

/-- A connection that was only accepted is at no other position. -/
theorem connsAt_accept (s : State) (fd : Fd) {p : ConnAt → Bool} (notThere : p .accepted = false) :
    connsAt (accept s fd) p = connsAt s p := by
  have grown := tally_range_succ s.nextConn (IsAt (accept s fd) p)
  have newcomer : ¬ IsAt (accept s fd) p s.nextConn := by simp [IsAt, accept, notThere]
  rw [if_neg newcomer] at grown
  refine grown.trans ((Nat.add_zero _).trans (tally_congr ?_))
  intro d earlier
  simp only [IsAt, accept_conns (Finset.mem_range.mp earlier)]

theorem inv_accept (inv : RegInv s) (idle : s.listener = none) (fresh : s.openFds fd = none) :
    RegInv (accept s fd) := by
  -- nobody else has the new connection's number or its fd
  have before : ∀ d posD fdD, (accept s fd).conns d = some (posD, fdD) →
      (d = s.nextConn ∧ posD = .accepted ∧ fdD = fd) ∨
        (d < s.nextConn ∧ fdD ≠ fd ∧ s.conns d = some (posD, fdD)) := by
    intro d posD fdD heldD
    rcases conns_update (s := s) (c := s.nextConn) rfl heldD with ⟨here, isNext⟩ | ⟨-, was⟩
    · obtain ⟨rfl, rfl⟩ := Prod.mk.inj (Option.some.inj isNext)
      exact .inl ⟨here, rfl, rfl⟩
    · refine .inr ⟨inv.known d posD fdD was, ?_, was⟩
      rintro rfl
      rw [inv.isOpen d posD fdD was] at fresh
      cases fresh
  refine ⟨inv.once, ?_, ?_, ?_, ?_, ?_, ?_, ?_⟩
  · intro i fd' entry
    obtain ⟨d, posD, heldD, regD⟩ := inv.owned i fd' entry
    have other : d ≠ s.nextConn := Nat.ne_of_lt (inv.known d posD fd' heldD)
    exact ⟨d, posD, by simp only [accept, Function.update_of_ne other]; exact heldD, regD⟩
  · intro d posD fdD heldD regD
    rcases before d posD fdD heldD with ⟨-, rfl, -⟩ | ⟨-, -, was⟩
    · cases regD
    · exact inv.listed d posD fdD was regD
  · intro d posD fdD heldD
    rcases before d posD fdD heldD with ⟨rfl, -, rfl⟩ | ⟨-, notFd, was⟩
    · simp [accept]
    · simp only [accept, Function.update_of_ne notFd]
      exact inv.isOpen d posD fdD was
  · intro d posD fdD heldD
    rcases before d posD fdD heldD with ⟨rfl, -, -⟩ | ⟨earlier, -, -⟩
    · exact Nat.lt_succ_self _
    · exact Nat.lt_succ_of_lt earlier
  · intro d posD fdD heldD byListener
    rcases before d posD fdD heldD with ⟨rfl, -, -⟩ | ⟨-, -, was⟩
    · rfl
    · rw [inv.listening d posD fdD was byListener] at idle
      cases idle
  · rw [connsAt_accept s fd rfl]
    exact inv.entries
  · rw [connsAt_accept s fd rfl]
    exact inv.count

/-! ## Every action keeps it -/

theorem inv_step (inv : RegInv s) (a : Action) (guard : Guard s a) : RegInv (effect s a) := by
  cases a with
  | accept fd => exact inv_accept inv guard.1 guard.2
  | registerClient c fd => exact inv_registerClient inv guard
  | countClient c fd =>
      have mine := inv.listening c _ fd guard rfl
      exact inv.advance guard _ (inv.steps_to .creating guard (fun _ => mine) rfl rfl rfl rfl)
        rfl rfl (inv.count_add .creating guard rfl rfl rfl rfl rfl)
  | createDiscount c fd =>
      have mine := inv.listening c _ fd guard rfl
      exact inv.advance guard _ (inv.steps_to .createClose guard (fun _ => mine) rfl rfl rfl rfl)
        rfl rfl (inv.count_sub .createClose guard rfl rfl rfl rfl rfl)
  | discount c fd =>
      have mine : ConnAt.checkingLast.ofListener = true → s.listener = some c := by
        simp [ConnAt.ofListener]
      exact inv.advance guard _ (inv.steps_to .checkingLast guard mine rfl rfl rfl rfl)
        rfl rfl (inv.count_sub .checkingLast guard rfl rfl rfl rfl rfl)
  | createTask c fd created =>
      have mine := inv.listening c _ fd guard rfl
      cases created with
      | false => exact inv_moveTo inv guard rfl rfl fun _ => mine
      | true =>
          refine inv.advance guard (some (.running, fd)) ⟨rfl, rfl, ?_, fun _ _ => rfl, ?_⟩
            rfl rfl (inv.count_same .running guard rfl rfl rfl rfl)
          · rintro _ _ ⟨rfl, rfl⟩
            exact ⟨rfl, inv.isOpen c _ fd guard, by simp [ConnAt.ofListener]⟩
          · intro d other busy
            exact absurd (Option.some.inj (busy.symm.trans mine)) other
  | refuse c fd | createClose c fd =>
      have mine := inv.listening c _ fd guard rfl
      apply inv_closeConn inv guard rfl rfl none
      intro d other busy
      exact absurd (Option.some.inj (busy.symm.trans mine)) other
  | createUnregister c fd =>
      exact inv_unregisterClient inv guard rfl rfl rfl fun _ => inv.listening c _ fd guard rfl
  | unregister c fd => exact inv_unregisterClient inv guard rfl rfl rfl (by simp [ConnAt.ofListener])
  | endLoop c fd | released c fd | teardownDone c fd =>
      exact inv_moveTo inv guard rfl rfl (by simp [ConnAt.ofListener])
  | checkLast c fd =>
      simp only [effect, checkLast]
      split <;> exact inv_moveTo inv guard rfl rfl (by simp [ConnAt.ofListener])
  | close c fd => exact inv_closeConn inv guard rfl rfl s.listener fun _ _ busy => busy
  | sendEncode t nonempty => cases nonempty <;> exact inv.congr rfl rfl rfl rfl rfl rfl
  | sendStart t | sendSnapshot t | sendOne t fd rest dead sent | sendDone t dead | reap t dead =>
      exact inv.congr rfl rfl rfl rfl rfl rfl

end

theorem regInv_reachable {s : State} (path : system.Reachable s) : RegInv s :=
  path.invariant regInv_init fun _ a held guard => inv_step held a guard

/-! ## What one step does to the connections -/

/-- The positions of a connection task that has returned from `on_client_disconnect`. -/
def ConnAt.past : ConnAt → Bool
  | .unregistering | .discounting | .checkingLast | .teardown | .closing => true
  | _ => false

/-- How a connection may move in a step. -/
inductive Follows (a : Action) (c : ConnId) (fd : Fd) : ConnAt → Option ConnAt → Prop
  | listener {pos : ConnAt} {next : Option ConnAt} : pos.ofListener = true →
      (∀ p ∈ next, p.ofListener = true ∨ p = .running) → Follows a c fd pos next
  | endLoop : a = .endLoop c fd → Follows a c fd .running (some .releasing)
  | released : a = .released c fd → Follows a c fd .releasing (some .unregistering)
  | leaving {pos : ConnAt} {next : Option ConnAt} : pos.past = true → (∀ p ∈ next, p.past = true) →
      Follows a c fd pos next

/-- One connection moves and no other. -/
structure ConnStep (s : State) (a : Action) (c : ConnId) (fd : Fd) (pos : ConnAt)
    (next : Option ConnAt) : Prop where
  held : s.conns c = some (pos, fd)
  conns : (effect s a).conns = Function.update s.conns c (next.map fun p => (p, fd))
  nextConn : (effect s a).nextConn = s.nextConn
  follows : Follows a c fd pos next

/-- A step accepts a connection, moves one, or moves none. -/
theorem conns_step {s : State} {a : Action} (guard : Guard s a) :
    (∃ fd, a = .accept fd) ∨ ((effect s a).conns = s.conns ∧ (effect s a).nextConn = s.nextConn) ∨
      ∃ c fd pos next, ConnStep s a c fd pos next := by
  cases a with
  | accept fd => exact .inl ⟨fd, rfl⟩
  | registerClient c fd =>
      simp only [effect, registerClient]
      cases entered : s.clientFds.enter fd with
      | some fds =>
          exact .inr (.inr ⟨c, fd, _, some .counting, guard,
            by simp only [effect, registerClient, entered, State.moveTo]; rfl,
            by simp only [effect, registerClient, entered, State.moveTo],
            .listener rfl (by simp [ConnAt.ofListener])⟩)
      | none =>
          exact .inr (.inr ⟨c, fd, _, some .refused, guard,
            by simp only [effect, registerClient, entered, State.moveTo]; rfl,
            by simp only [effect, registerClient, entered, State.moveTo],
            .listener rfl (by simp [ConnAt.ofListener])⟩)
  | countClient c fd =>
      exact .inr (.inr ⟨c, fd, _, some .creating, guard, rfl, rfl,
        .listener rfl (by simp [ConnAt.ofListener])⟩)
  | refuse c fd | createClose c fd =>
      exact .inr (.inr ⟨c, fd, _, none, guard, rfl, rfl, .listener rfl (by simp)⟩)
  | createTask c fd created =>
      cases created with
      | true =>
          exact .inr (.inr ⟨c, fd, _, some .running, guard, rfl, rfl, .listener rfl (by simp)⟩)
      | false =>
          exact .inr (.inr ⟨c, fd, _, some .createFailed, guard, rfl, rfl,
            .listener rfl (by simp [ConnAt.ofListener])⟩)
  | createUnregister c fd =>
      exact .inr (.inr ⟨c, fd, _, some .createDiscount, guard, rfl, rfl,
        .listener rfl (by simp [ConnAt.ofListener])⟩)
  | createDiscount c fd =>
      exact .inr (.inr ⟨c, fd, _, some .createClose, guard, rfl, rfl,
        .listener rfl (by simp [ConnAt.ofListener])⟩)
  | endLoop c fd => exact .inr (.inr ⟨c, fd, _, _, guard, rfl, rfl, .endLoop rfl⟩)
  | released c fd => exact .inr (.inr ⟨c, fd, _, _, guard, rfl, rfl, .released rfl⟩)
  | unregister c fd =>
      exact .inr (.inr ⟨c, fd, _, some .discounting, guard, rfl, rfl,
        .leaving rfl (by simp [ConnAt.past])⟩)
  | discount c fd =>
      exact .inr (.inr ⟨c, fd, _, some .checkingLast, guard, rfl, rfl,
        .leaving rfl (by simp [ConnAt.past])⟩)
  | checkLast c fd =>
      refine .inr (.inr ⟨c, fd, _, some (if s.activeCount = 0 then .teardown else .closing), guard, rfl,
        rfl, .leaving rfl ?_⟩)
      split <;> simp [ConnAt.past]
  | teardownDone c fd =>
      exact .inr (.inr ⟨c, fd, _, some .closing, guard, rfl, rfl,
        .leaving rfl (by simp [ConnAt.past])⟩)
  | close c fd => exact .inr (.inr ⟨c, fd, _, none, guard, rfl, rfl, .leaving rfl (by simp)⟩)
  | sendEncode t nonempty => cases nonempty <;> exact .inr (.inl ⟨rfl, rfl⟩)
  | sendStart t | sendSnapshot t | sendOne t fd rest dead sent | sendDone t dead | reap t dead =>
      exact .inr (.inl ⟨rfl, rfl⟩)

theorem nextConn_step {s : State} {a : Action} (guard : Guard s a) :
    s.nextConn ≤ (effect s a).nextConn := by
  rcases conns_step guard with ⟨fd, rfl⟩ | ⟨-, same⟩ | ⟨c, fd, pos, next, step⟩
  · exact Nat.le_succ _
  · exact Nat.le_of_eq same.symm
  · exact Nat.le_of_eq step.nextConn.symm

/-! ## What the registry looks like from outside -/

/-- A connection between the two steps of `register_client` or `unregister_client`. -/
def Midway (s : State) : Prop :=
  ∃ c pos fd, s.conns c = some (pos, fd) ∧ pos.registered ≠ pos.counted

/-- **The client registry is consistent in every reachable state.** No fd is
registered twice; a registered fd is open and belongs to a connection whose task
lives or whom the listener is creating; the table is never overfull; and the
count is that of the connections between increment and decrement, so that it
equals the number of entries whenever nobody is midway. -/
theorem client_registry (s : State) (path : system.Reachable s) :
    (∀ i j fd, s.clientFds i = some fd → s.clientFds j = some fd → i = j) ∧
    (∀ i fd, s.clientFds i = some fd → ∃ c pos, s.openFds fd = some c ∧
      s.conns c = some (pos, fd) ∧
        (pos = .running ∨ pos = .releasing ∨ pos = .unregistering ∨ s.listener = some c)) ∧
    s.clientFds.registered ≤ maxApiClients ∧
    s.activeCount = UInt8.ofNat (connsAt s ConnAt.counted) ∧
    (¬ Midway s → s.activeCount.toNat = s.clientFds.registered) := by
  have inv := regInv_reachable path
  refine ⟨inv.once, ?_, FdTable.registered_le _, inv.count, ?_⟩
  · intro i fd entry
    obtain ⟨c, pos, held, registered⟩ := inv.owned i fd entry
    refine ⟨c, pos, inv.isOpen c pos fd held, held, ?_⟩
    by_cases byListener : pos.ofListener = true
    · exact .inr (.inr (.inr (inv.listening c pos fd held byListener)))
    · cases pos <;> simp_all [ConnAt.registered, ConnAt.ofListener]
  · intro settled
    have same : connsAt s ConnAt.counted = connsAt s ConnAt.registered := by
      apply tally_congr
      intro c _
      cases held : s.conns c with
      | none => simp [IsAt, held]
      | some at_ =>
          have agree : at_.1.registered = at_.1.counted := by
            by_contra differ
            exact settled ⟨c, at_.1, at_.2, held, differ⟩
          rw [isAt_of_conn held, isAt_of_conn held, agree]
    have bound := FdTable.registered_le s.clientFds
    rw [inv.count, same, ← inv.entries]
    exact UInt8.toNat_ofNat_of_lt' (Nat.lt_of_le_of_lt bound (by decide))

/-- Two clients arrive; the task of the second cannot be created. -/
def arrivalSchedule : List Action :=
  [.accept 5, .registerClient 0 5, .countClient 0 5, .createTask 0 5 true,
   .accept 6, .registerClient 1 6, .countClient 1 6, .createTask 1 6 false,
   .createUnregister 1 6, .createDiscount 1 6, .createClose 1 6]

theorem client_registry_arrival :
    ∃ s, system.Reachable s ∧ s.clientFds 0 = some 5 ∧ ¬ Midway s ∧
      s.activeCount.toNat = s.clientFds.registered ∧ s.activeCount = 1 := by
  have path := system.reachable_final arrivalSchedule
  have settled : ¬ Midway (system.final arrivalSchedule) := by
    rintro ⟨c, pos, fd, held, differ⟩
    match c with
    | 0 =>
        have isRunning : some (ConnAt.running, 5) = some (pos, fd) := held
        obtain ⟨rfl, -⟩ := Prod.mk.inj (Option.some.inj isRunning)
        exact differ rfl
    | 1 => cases held
    | c + 2 => cases held
  exact ⟨_, path, by decide, settled, (client_registry _ path).2.2.2.2 settled, by decide⟩

end NimbleProxy.Api.Server
