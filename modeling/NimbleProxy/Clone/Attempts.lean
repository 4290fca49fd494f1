/-
# Clone.Attempts -- the clone supervisor with a record of its attempts

`Upstream.system` and beside it a record of what its steps were about, which no
step reads: which connect a signal on `g_connect_sem` and a value in `g_connect_ok`
come from, how the last call of `try_session` ended, and whether the supervisor has
gone from Ready to Disabled.

Connects are numbered as NimBLE accepts them. It accepts one only from a client that
has neither an attempt nor a link, so a callback always answers the last connect.
-/
import NimbleProxy.Clone.Upstream

namespace NimbleProxy.Clone.Attempts

open NimbleProxy.Theory NimbleProxy.Clone.Upstream ActionSystem

set_option autoImplicit false

/-- Bookkeeping. -/
structure Record where
  /-- the number of connects NimBLE has accepted -/
  issued : Nat := 0
  /-- the connect whose callback has given `g_connect_sem` -/
  signal : Option Nat := none
  /-- the connect whose callback has written `g_connect_ok` since it was cleared -/
  okFrom : Option Nat := none
  /-- the connect whose signal was taken last -/
  taken : Option Nat := none
  /-- the last call of `try_session` returned false -/
  failed : Bool := false
  /-- Ready was stored -/
  wasReady : Bool := false
  /-- Disabled was stored after Ready, and no connect was issued since -/
  off : Bool := false

structure State where
  up : Upstream.State := {}
  record : Record := {}

/-- What `try_session` returns with a step that leads from one position to another. -/
def returned : Pc → Pc → Option Bool
  | .session _ _, .backoff => some false
  | .session _ _, .pump => some true
  | _, _ => none

/-- What the supervisor is about to do, for the record. -/
def Record.note (r : Record) (outcome : Bool) : Pc → Record
  | .session (.drainConnectSem _) _ => { r with signal := none }
  | .session (.clearConnectOk _) _ => { r with okFrom := none }
  | .session (.connect _) _ =>
      { r with issued := if outcome then r.issued + 1 else r.issued, off := false }
  | .session (.awaitConnect _) _ =>
      if outcome then { r with taken := r.signal, signal := none } else r
  | .session .storeReady _ => { r with wasReady := true }
  | .storeDisabled => { r with off := r.wasReady }
  | _ => r

def Record.close (r : Record) : Option Bool → Record
  | some ok => { r with failed := !ok }
  | none => r

/-- `onConnect` and `onConnectFail` write `g_connect_ok` and give `g_connect_sem`, if it exists. -/
def Record.answered (r : Record) (sem : Option Bool) : Record :=
  { r with
    okFrom := some r.issued
    signal := if sem.isSome then some r.issued else r.signal }

def effect (s : State) (a : Upstream.Action) : State :=
  let up := Upstream.effect s.up a
  match a with
  | .supervisor outcome _ =>
      ⟨up, (s.record.note outcome s.up.pc).close (returned s.up.pc up.pc)⟩
  | .onConnect _ | .onConnectFail _ => ⟨up, s.record.answered s.up.connectSem⟩
  | _ => ⟨up, s.record⟩

def Guard (s : State) (a : Upstream.Action) : Prop := Upstream.Guard s.up a

instance (s : State) (a : Upstream.Action) : Decidable (Guard s a) :=
  inferInstanceAs (Decidable (Upstream.Guard s.up a))

def system : ActionSystem State Upstream.Action where
  init := {}
  Guard := Guard
  guardDecidable := inferInstance
  effect := effect

theorem up_effect (s : State) (a : Upstream.Action) : (effect s a).up = Upstream.effect s.up a := by
  cases a <;> rfl

theorem up_projection : Projection system Upstream.system State.up where
  init := rfl
  step := fun s a guard => .inr ⟨a, guard, up_effect s a⟩

theorem up_reachable {s : State} (path : system.Reachable s) : Upstream.system.Reachable s.up :=
  up_projection.reachable path

/-! ## Links -/

/-- NimBLE owes the callback of the last connect. -/
def pending : Link → Bool
  | .attempting | .failed | .up false _ => true
  | _ => false

/-- An established link that was neither lost nor hung up. -/
def standing : Link → Bool
  | .up _ false => true
  | _ => false

end NimbleProxy.Clone.Attempts
