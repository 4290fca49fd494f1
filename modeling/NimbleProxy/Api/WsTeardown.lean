/-
# Api.WsTeardown -- what a WebSocket session owns, and who gives it back

The upgrade in `ws_handler` sets a `WsSession` up in five steps, each of which may fail:
a loopback socket, its connection, the object, its semaphore, its pump task. What it has
by then it gives back. A session that is set up has one owner, `session_free`: it wakes
the pump, takes the semaphore that the pump gives as its last act, and only then closes
and deletes.

httpd runs the handlers and `free_ctx` on one task, and calls `free_ctx` once for every
request on which it was set, when it likes: the browser has closed, a handler has failed,
the pump has asked for it. The pumps run beside it. A call of the outside (`recv`, `send`,
`new`, ...) answers as it likes. A step that uses an object, a socket or a semaphore that
is not there is the error (`uses`).
-/
import NimbleProxy.Theory.ActionSystem
import NimbleProxy.Theory.Tally

namespace NimbleProxy.Api.WsTeardown

open NimbleProxy.Theory ActionSystem

set_option autoImplicit false

/-! ## State -/

inductive Resource
  | none | held | released
  deriving DecidableEq

/-- Where httpd's task is with a session: before the call that the name says. -/
inductive Stage
  | unborn
  -- `ws_handler`
  | checkCap | socket | dial | alloc | createSem | createTask | setCtx | count
  -- its exits; whether the object is there
  | undoSem | undoFd (object : Bool) | undoObject
  | refused
  | active
  -- `session_free`
  | storeClosing | shutdown | take | closeFd | deleteSem | subtract | delete
  | freed
  deriving DecidableEq

/-- Where the pump is. -/
inductive Pump
  | none | check | recv | send | exitCheck | trigger | give | done
  deriving DecidableEq

structure Session where
  stage : Stage := .unborn
  fd : Resource := .none
  object : Resource := .none
  sem : Resource := .none
  given : Bool := false
  pump : Pump := .none
  closing : Bool := false
  /-- the loopback socket is shut down: `recv` returns -/
  shut : Bool := false
  -- history
  closes : Nat := 0
  frees : Nat := 0

structure State where
  /-- the session that httpd's task is at -/
  busy : Option Nat := none
  next : Nat := 0
  /-- `g_sessions` -/
  sessions : UInt8 := 0
  session : Nat → Session := fun _ => {}
  error : Bool := false

/-- `MAX_WS_SESSIONS`. -/
def maxWsSessions : UInt8 := 2

/-! ## httpd's task -/

/-- The task is through with the session for now. -/
def Stage.resting : Stage → Bool
  | .unborn | .refused | .active | .freed => true
  | _ => false

/-- The next step of `ws_handler` or `session_free`, if `g_sessions` is `n` and the call it makes
succeeds or not. -/
def Session.step (n : UInt8) (ok : Bool) (x : Session) : Session :=
  match x.stage with
  | .unborn | .refused | .active | .freed => x
  | .checkCap => { x with stage := if n ≥ maxWsSessions then .refused else .socket }
  | .socket =>
      if ok then { x with fd := .held, stage := .dial } else { x with stage := .refused }
  | .dial => { x with stage := if ok then .alloc else .undoFd false }
  | .alloc =>
      if ok then { x with object := .held, stage := .createSem }
      else { x with stage := .undoFd false }
  | .createSem =>
      if ok then { x with sem := .held, stage := .createTask }
      else { x with stage := .undoFd true }
  | .createTask =>
      if ok then { x with pump := .check, stage := .setCtx } else { x with stage := .undoSem }
  | .setCtx => { x with stage := .count }
  | .count => { x with stage := .active }
  | .undoSem => { x with sem := .released, stage := .undoFd true }
  | .undoFd object =>
      { x with
        fd := .released
        closes := x.closes + 1
        stage := if object then .undoObject else .refused }
  | .undoObject => { x with object := .released, frees := x.frees + 1, stage := .refused }
  | .storeClosing => { x with closing := true, stage := .shutdown }
  | .shutdown => { x with shut := true, stage := .take }
  | .take => { x with given := false, stage := .closeFd }
  | .closeFd => { x with fd := .released, closes := x.closes + 1, stage := .deleteSem }
  | .deleteSem => { x with sem := .released, stage := .subtract }
  | .subtract => { x with stage := .delete }
  | .delete => { x with object := .released, frees := x.frees + 1, stage := .freed }

/-- `g_sessions` after it. -/
def Stage.counter (n : UInt8) : Stage → UInt8
  | .count => n + 1
  | .subtract => n - 1
  | _ => n

/-! ## The pump -/

/-- The next step of `pump_task`, if its call succeeds or not. -/
def Pump.next (closing ok : Bool) : Pump → Pump
  | .none => .none
  | .check => if closing then .exitCheck else .recv
  | .recv => if ok then .send else .exitCheck
  | .send => if ok then .check else .exitCheck
  | .exitCheck => if closing then .give else .trigger
  | .trigger => .give
  | .give => .done
  | .done => .done

def Session.pumped (ok : Bool) (x : Session) : Session :=
  { x with
    pump := x.pump.next x.closing ok
    given := x.given || decide (x.pump = .give) }

def Pump.runs : Pump → Bool
  | .none | .done => false
  | _ => true

/-! ## What a step uses -/

inductive Thing
  | object | fd | sem

def Session.has (x : Session) : Thing → Bool
  | .object => x.object = .held
  | .fd => x.fd = .held
  | .sem => x.sem = .held

def Stage.uses : Stage → List Thing
  | .dial | .undoFd _ => [.fd]
  | .createSem | .createTask | .count | .undoObject | .storeClosing | .subtract | .delete => [.object]
  | .shutdown | .closeFd => [.object, .fd]
  | .undoSem | .take | .deleteSem => [.object, .sem]
  | .unborn | .checkCap | .socket | .alloc | .setCtx | .refused | .active | .freed => []

def Pump.uses : Pump → List Thing
  | .check | .send | .exitCheck | .trigger => [.object]
  | .recv => [.object, .fd]
  | .give => [.object, .sem]
  | .none | .done => []

/-! ## The system -/

inductive Action
  /-- a browser asks for an upgrade -/
  | upgrade
  /-- httpd's task goes on -/
  | httpd (ok : Bool)
  /-- `ws_handler` for a data frame -/
  | dataFrame (k : Nat)
  /-- httpd calls `free_ctx` -/
  | freeCtx (k : Nat)
  | pump (k : Nat) (ok : Bool)

/-- `session_free` waits for the semaphore. -/
def Session.proceeds (x : Session) : Prop := x.stage = .take → x.given = true

instance (x : Session) : Decidable x.proceeds := inferInstanceAs (Decidable (_ → _))

def Guard (s : State) : Action → Prop
  | .upgrade => s.busy = none
  | .httpd _ => ∃ k ∈ s.busy, (s.session k).proceeds
  | .dataFrame k => s.busy = none ∧ (s.session k).stage = .active
  | .freeCtx k => s.busy = none ∧ (s.session k).stage = .active
  | .pump k _ => (s.session k).pump.runs = true

instance (s : State) : (a : Action) → Decidable (Guard s a)
  | .upgrade | .pump .. => inferInstanceAs (Decidable (_ = _))
  | .httpd _ => inferInstanceAs (Decidable (∃ k ∈ s.busy, (s.session k).proceeds))
  | .dataFrame _ | .freeCtx _ => inferInstanceAs (Decidable (_ ∧ _))

def uses (s : State) : Action → List (Nat × Thing)
  | .upgrade | .freeCtx _ => []
  | .httpd _ => (s.busy.map fun k => (s.session k).stage.uses.map (k, ·)).getD []
  | .dataFrame k => [(k, .object), (k, .fd)]
  | .pump k _ => (s.session k).pump.uses.map (k, ·)

def State.set (s : State) (k : Nat) (x : Session) : State :=
  { s with session := Function.update s.session k x }

def apply (s : State) : Action → State
  | .upgrade =>
      { s.set s.next { stage := .checkCap } with
        busy := some s.next
        next := s.next + 1 }
  | .httpd ok =>
      match s.busy with
      | none => s
      | some k =>
          let x := (s.session k).step s.sessions ok
          { s.set k x with
            sessions := (s.session k).stage.counter s.sessions
            busy := if x.stage.resting then none else some k }
  | .dataFrame _ => s
  | .freeCtx k => { s.set k { s.session k with stage := .storeClosing } with busy := some k }
  | .pump k ok => s.set k ((s.session k).pumped ok)

def effect (s : State) (a : Action) : State :=
  { apply s a with error := s.error || (uses s a).any fun (k, thing) => !(s.session k).has thing }

def system : ActionSystem State Action where
  init := {}
  Guard := Guard
  guardDecidable := inferInstance
  effect := effect

/-- The session is counted in `g_sessions`. -/
def Stage.counted : Stage → Bool
  | .active | .storeClosing | .shutdown | .take | .closeFd | .deleteSem | .subtract => true
  | _ => false

/-- The set-up has passed the check of the cap, and may come to count the session. -/
def Stage.admitted : Stage → Bool
  | .socket | .dial | .alloc | .createSem | .createTask | .setCtx | .count => true
  | _ => false

/-! ## The life of a session -/

/-- The resources of a session whose pump may run. -/
def Session.running (stage : Stage) (pump : Pump) (closing shut : Bool) : Session :=
  { stage, pump, closing, shut
    fd := .held
    object := .held
    sem := .held
    given := decide (pump = .done) }

/-- The resources of a session whose pump has ended and given the semaphore. -/
def Session.ended (stage : Stage) (fd sem object : Resource) : Session :=
  { stage, fd, sem, object
    pump := .done
    closing := true
    shut := true
    closes := if fd = .released then 1 else 0
    frees := if object = .released then 1 else 0 }

/-- What a session can be. -/
inductive Life : Session → Prop
  | unborn : Life {}
  | checkCap : Life { stage := .checkCap }
  | socket : Life { stage := .socket }
  | refused : Life { stage := .refused }
  | dial : Life { stage := .dial, fd := .held }
  | alloc : Life { stage := .alloc, fd := .held }
  | undoSocket : Life { stage := .undoFd false, fd := .held }
  | refusedSocket : Life { stage := .refused, fd := .released, closes := 1 }
  | createSem : Life { stage := .createSem, fd := .held, object := .held }
  | createTask : Life { stage := .createTask, fd := .held, object := .held, sem := .held }
  | undoSem : Life { stage := .undoSem, fd := .held, object := .held, sem := .held }
  | undoFd (sem : Resource) (gone : sem ≠ .held) :
      Life { stage := .undoFd true, fd := .held, object := .held, sem }
  | undoObject (sem : Resource) (gone : sem ≠ .held) :
      Life { stage := .undoObject, fd := .released, object := .held, sem, closes := 1 }
  | refusedObject (sem : Resource) (gone : sem ≠ .held) :
      Life { stage := .refused, fd := .released, object := .released, sem, closes := 1, frees := 1 }
  | setCtx (pump : Pump) (started : pump ≠ .none) : Life (.running .setCtx pump false false)
  | count (pump : Pump) (started : pump ≠ .none) : Life (.running .count pump false false)
  | active (pump : Pump) (started : pump ≠ .none) : Life (.running .active pump false false)
  | storeClosing (pump : Pump) (started : pump ≠ .none) :
      Life (.running .storeClosing pump false false)
  | shutdown (pump : Pump) (started : pump ≠ .none) : Life (.running .shutdown pump true false)
  | take (pump : Pump) (started : pump ≠ .none) : Life (.running .take pump true true)
  | closeFd : Life (.ended .closeFd .held .held .held)
  | deleteSem : Life (.ended .deleteSem .released .held .held)
  | subtract : Life (.ended .subtract .released .released .held)
  | delete : Life (.ended .delete .released .released .held)
  | freed : Life (.ended .freed .released .released .released)

/-- A step of httpd's task leads to the next stage of the life. -/
theorem Life.step {x : Session} (life : Life x) (proceeds : x.proceeds) (n : UInt8) (ok : Bool) :
    Life (x.step n ok) := by
  cases life with
  | unborn => exact .unborn
  | checkCap =>
      unfold Session.step
      dsimp only
      split
      · exact .refused
      · exact .socket
  | socket =>
      cases ok
      · exact .refused
      · exact .dial
  | refused => exact .refused
  | dial =>
      cases ok
      · exact .undoSocket
      · exact .alloc
  | alloc =>
      cases ok
      · exact .undoSocket
      · exact .createSem
  | undoSocket => exact .refusedSocket
  | refusedSocket => exact .refusedSocket
  | createSem =>
      cases ok
      · exact .undoFd .none nofun
      · exact .createTask
  | createTask =>
      cases ok
      · exact .undoSem
      · exact .setCtx .check nofun
  | undoSem => exact .undoFd .released nofun
  | undoFd sem gone => exact .undoObject sem gone
  | undoObject sem gone => exact .refusedObject sem gone
  | refusedObject sem gone => exact .refusedObject sem gone
  | setCtx pump started => exact .count pump started
  | count pump started => exact .active pump started
  | active pump started => exact .active pump started
  | storeClosing pump started => exact .shutdown pump started
  | shutdown pump started => exact .take pump started
  | take pump started =>
      have done : pump = .done := of_decide_eq_true (proceeds rfl)
      subst done
      exact .closeFd
  | closeFd => exact .deleteSem
  | deleteSem => exact .subtract
  | subtract => exact .delete
  | delete => exact .freed
  | freed => exact .freed

theorem pumped_running (stage : Stage) {pump : Pump} (runs : pump.runs = true) (closing shut ok : Bool) :
    (Session.running stage pump closing shut).pumped ok =
        .running stage (pump.next closing ok) closing shut ∧
      pump.next closing ok ≠ .none := by
  cases pump <;> cases closing <;> cases ok <;> first | exact ⟨rfl, by decide⟩ | cases runs

theorem Life.pumped {x : Session} (life : Life x) (runs : x.pump.runs = true) (ok : Bool) :
    Life (x.pumped ok) := by
  cases life with
  | setCtx pump started =>
      obtain ⟨same, started'⟩ := pumped_running .setCtx runs false false ok
      exact same ▸ .setCtx _ started'
  | count pump started =>
      obtain ⟨same, started'⟩ := pumped_running .count runs false false ok
      exact same ▸ .count _ started'
  | active pump started =>
      obtain ⟨same, started'⟩ := pumped_running .active runs false false ok
      exact same ▸ .active _ started'
  | storeClosing pump started =>
      obtain ⟨same, started'⟩ := pumped_running .storeClosing runs false false ok
      exact same ▸ .storeClosing _ started'
  | shutdown pump started =>
      obtain ⟨same, started'⟩ := pumped_running .shutdown runs true false ok
      exact same ▸ .shutdown _ started'
  | take pump started =>
      obtain ⟨same, started'⟩ := pumped_running .take runs true true ok
      exact same ▸ .take _ started'
  | _ => cases runs

/-! ## What the life says -/

/-- The steps that the pump still takes once `closing` is set, at most. -/
def Pump.rank : Pump → Nat
  | .none | .done => 0
  | .give => 1
  | .trigger | .exitCheck => 2
  | .check => 3
  | .send => 4
  | .recv => 5

theorem rank_next {pump : Pump} (runs : pump.runs = true) (ok : Bool) :
    (pump.next true ok).rank < pump.rank := by
  cases pump <;> cases ok <;> first | decide | cases runs

/-- Everything is given back once, after the pump. -/
structure Accounted (x : Session) : Prop where
  closes : x.closes ≤ 1
  frees : x.frees ≤ 1
  /-- nothing is closed or freed beside a pump that runs -/
  afterPump : x.closes = 1 ∨ x.frees = 1 ∨ x.sem = .released → x.pump.runs = false
  freed : x.stage = .freed → x.closes = 1 ∧ x.frees = 1 ∧ x.sem = .released ∧ x.pump = .done
  /-- a set-up that failed leaves nothing -/
  refused : x.stage = .refused →
    x.fd ≠ .held ∧ x.object ≠ .held ∧ x.sem ≠ .held ∧ x.pump = .none ∧
      (x.closes = 1 ↔ x.fd = .released) ∧ (x.frees = 1 ↔ x.object = .released)
  /-- `session_free` waits for a pump that ends -/
  joins : x.stage = .take → x.given = true ∨
    x.shut = true ∧ x.pump.runs = true ∧ ∀ ok, (x.pumped ok).pump.rank < x.pump.rank

namespace Life

variable {x : Session}

theorem accounted (life : Life x) : Accounted x := by
  cases life with
  | take pump started =>
      refine ⟨Nat.zero_le _, Nat.zero_le _, ?_, nofun, nofun, fun _ => ?_⟩
      · simp [Session.running]
      · by_cases done : pump = .done
        · exact .inl (decide_eq_true done)
        · have runs : pump.runs = true := by
            cases pump <;> first | rfl | contradiction
          exact .inr ⟨rfl, runs, rank_next runs⟩
  | _ => constructor <;> simp [Session.running, Session.ended, Pump.runs, *]

/-- What httpd's task uses is there. -/
theorem has_of_stage (life : Life x) : ∀ thing ∈ x.stage.uses, x.has thing = true := by
  cases life <;> simp [Stage.uses, Session.has, Session.running, Session.ended]

/-- What the pump uses is there. -/
theorem has_of_pump (life : Life x) (runs : x.pump.runs = true) :
    ∀ thing ∈ x.pump.uses, x.has thing = true := by
  have all : ∀ stage pump closing shut thing,
      (Session.running stage pump closing shut).has thing = true := by
    intro _ _ _ _ thing
    cases thing <;> rfl
  cases life with
  | setCtx | count | active | storeClosing | shutdown | take => exact fun thing _ => all ..
  | _ => cases runs

theorem has_of_active (life : Life x) (active : x.stage = .active) (thing : Thing) :
    x.has thing = true := by
  cases life with
  | active pump started => cases thing <;> rfl
  | _ => cases active

/-- At rest, the session is counted if its object is there. -/
theorem counted_iff (life : Life x) (rests : x.stage.resting = true) :
    x.stage.counted = true ↔ x.object = .held := by
  cases life <;> simp_all [Stage.counted, Stage.resting, Session.running, Session.ended]

end Life

/-! ## The system keeps it -/

/-- The sessions that are counted. -/
def State.counted (s : State) : Nat :=
  tally (Finset.range s.next) fun k => (s.session k).stage.counted = true

structure Inv (s : State) : Prop where
  life : ∀ k, Life (s.session k)
  unborn : ∀ k, s.next ≤ k → s.session k = {}
  busy : ∀ k ∈ s.busy, k < s.next
  rests : ∀ k, k ∉ s.busy → (s.session k).stage.resting = true
  admitted : ∀ k, (s.session k).stage.admitted = true → s.sessions.toNat < 2
  counter : s.sessions.toNat = s.counted
  cap : s.sessions.toNat ≤ 2
  noError : s.error = false

theorem inv_init : Inv system.init := by
  refine ⟨fun _ => .unborn, fun _ _ => rfl, nofun, fun _ _ => rfl, nofun, ?_, by decide, rfl⟩
  rfl

/-- A session is replaced by one that is counted as before. -/
theorem counted_set {s : State} {k : Nat} {x : Session} (born : k < s.next) :
    State.counted (s.set k x) + (if (s.session k).stage.counted = true then 1 else 0) =
      s.counted + if x.stage.counted = true then 1 else 0 := by
  have others : ∀ j, j ≠ k → ((s.session j).stage.counted = true ↔
      (Function.update s.session k x j).stage.counted = true) := by
    intro j other
    rw [Function.update_of_ne other]
  have change := tally_change (Finset.mem_range.mpr born) others
  rw [Function.update_self] at change
  exact change

/-- What a step uses is there. -/
theorem Inv.noError_effect {s : State} (inv : Inv s) {a : Action} (guard : Guard s a) :
    (effect s a).error = false := by
  have all : ∀ k thing, (k, thing) ∈ uses s a → (s.session k).has thing = true := by
    intro j thing mem
    cases a with
    | upgrade | freeCtx => cases mem
    | dataFrame k =>
        simp only [uses, List.mem_cons, List.not_mem_nil, or_false, Prod.mk.injEq] at mem
        obtain rfl : j = k := by rcases mem with own | own <;> exact own.1
        exact (inv.life j).has_of_active guard.2 thing
    | httpd ok =>
        obtain ⟨k, busy, -⟩ := guard
        rw [uses, Option.mem_def.mp busy] at mem
        obtain ⟨thing', used, same⟩ := List.mem_map.mp mem
        cases same
        exact (inv.life j).has_of_stage thing used
    | pump k ok =>
        obtain ⟨thing', used, same⟩ := List.mem_map.mp mem
        cases same
        exact (inv.life j).has_of_pump guard thing used
  have none : (uses s a).any (fun (k, thing) => !(s.session k).has thing) = false := by
    rw [List.any_eq_false]
    rintro ⟨k, thing⟩ mem
    simp [all k thing mem]
  simp only [effect, inv.noError, none, Bool.or_self]

/-- `g_sessions` follows the session that httpd's task is at. -/
theorem step_counter (x : Session) {n : UInt8} (admitted : x.stage.admitted = true → n.toNat < 2)
    (counted : x.stage.counted = true → 0 < n.toNat) (cap : n.toNat ≤ 2) (ok : Bool) :
    (x.stage.counter n).toNat + (if x.stage.counted = true then 1 else 0) =
        n.toNat + (if (x.step n ok).stage.counted = true then 1 else 0) ∧
      ((x.step n ok).stage.admitted = true → (x.stage.counter n).toNat < 2) ∧
      (x.stage.counter n).toNat ≤ 2 := by
  have added : n.toNat < 2 → (n + 1).toNat = n.toNat + 1 := by
    intro below
    rw [UInt8.toNat_add]
    exact Nat.mod_eq_of_lt (by simp; omega)
  have taken : 0 < n.toNat → (n - 1).toNat = n.toNat - 1 := by
    intro positive
    have one : (1 : UInt8) ≤ n := UInt8.le_iff_toNat_le.mpr positive
    rw [UInt8.toNat_sub_of_le _ _ one]
    rfl
  obtain ⟨stage, fd, object, sem, given, pump, closing, shut, closes, frees⟩ := x
  cases stage with
  | checkCap =>
      have full : n ≥ maxWsSessions ↔ 2 ≤ n.toNat := UInt8.le_iff_toNat_le
      simp only [Session.step, Stage.counter, full]
      by_cases isFull : 2 ≤ n.toNat
      · rw [if_pos isFull]
        exact ⟨rfl, nofun, cap⟩
      · rw [if_neg isFull]
        exact ⟨rfl, fun _ => Nat.lt_of_not_le isFull, cap⟩
  | count =>
      have below := admitted rfl
      simp [Session.step, Stage.counter, Stage.counted, Stage.admitted, added below]
      omega
  | subtract =>
      have positive := counted rfl
      simp [Session.step, Stage.counter, Stage.counted, Stage.admitted, taken positive]
      omega
  | undoFd object => cases object <;> exact ⟨rfl, nofun, cap⟩
  | socket | dial | alloc | createSem | createTask =>
      have below := admitted rfl
      cases ok <;> exact ⟨rfl, fun _ => below, cap⟩
  | setCtx => exact ⟨rfl, fun _ => admitted rfl, cap⟩
  | _ => exact ⟨rfl, nofun, cap⟩

theorem not_admitted {stage : Stage} (rests : stage.resting = true) : ¬ stage.admitted = true := by
  cases stage <;> first | decide | cases rests

theorem Inv.counted_pos {s : State} (inv : Inv s) {k : Nat} (born : k < s.next)
    (counted : (s.session k).stage.counted = true) : 0 < s.sessions.toNat := by
  rw [inv.counter]
  exact tally_pos.mpr ⟨k, Finset.mem_range.mpr born, counted⟩

/-- A step that changes one session. -/
theorem Inv.change {s t : State} (inv : Inv s) {k : Nat} {x : Session}
    (session : t.session = Function.update s.session k x) (grows : s.next ≤ t.next)
    (born : k < t.next) (life : Life x) (busy : t.busy = some k ∨ t.busy = none ∨ t.busy = s.busy)
    (rests : k ∉ t.busy → x.stage.resting = true)
    (othersRest : ∀ j, j ≠ k → j ∉ t.busy → (s.session j).stage.resting = true)
    (admitted : x.stage.admitted = true → t.sessions.toNat < 2)
    (othersAdmitted : ∀ j, j ≠ k → (s.session j).stage.admitted = true → t.sessions.toNat < 2)
    (counter : t.sessions.toNat = t.counted) (cap : t.sessions.toNat ≤ 2)
    (noError : t.error = false) : Inv t := by
  refine ⟨fun j => ?_, fun j beyond => ?_, fun j own => ?_, fun j free => ?_, fun j isAdmitted => ?_,
    counter, cap, noError⟩
  · by_cases same : j = k
    · rw [session, same, Function.update_self]
      exact life
    · rw [session, Function.update_of_ne same]
      exact inv.life j
  · have other : j ≠ k := by omega
    rw [session, Function.update_of_ne other]
    exact inv.unborn j (grows.trans beyond)
  · rcases busy with isBusy | isIdle | same
    · rw [isBusy] at own
      cases own
      exact born
    · rw [isIdle] at own
      cases own
    · exact (inv.busy j (same ▸ own)).trans_le grows
  · by_cases same : j = k
    · rw [session, same, Function.update_self]
      exact rests (same ▸ free)
    · rw [session, Function.update_of_ne same]
      exact othersRest j same free
  · by_cases same : j = k
    · rw [session, same, Function.update_self] at isAdmitted
      exact admitted isAdmitted
    · rw [session, Function.update_of_ne same] at isAdmitted
      exact othersAdmitted j same isAdmitted

theorem inv_httpd {s : State} (inv : Inv s) {k : Nat} (busy : s.busy = some k)
    (proceeds : (s.session k).proceeds) (ok : Bool)
    (noError : (effect s (.httpd ok)).error = false) : Inv (effect s (.httpd ok)) := by
  have born := inv.busy k busy
  have others (j : Nat) (other : j ≠ k) : (s.session j).stage.resting = true :=
    inv.rests j (by rw [busy]; simpa using Ne.symm other)
  obtain ⟨counter, admitted, cap⟩ := step_counter (s.session k) (inv.admitted k)
    (inv.counted_pos born) inv.cap ok
  have next : effect s (.httpd ok) =
      { s.set k ((s.session k).step s.sessions ok) with
        sessions := (s.session k).stage.counter s.sessions
        busy := if ((s.session k).step s.sessions ok).stage.resting then none else some k
        error := (effect s (.httpd ok)).error } := by
    simp only [effect, apply, busy]
  rw [next] at noError ⊢
  refine inv.change rfl (Nat.le_refl _) born ((inv.life k).step proceeds s.sessions ok) ?_ ?_
    (fun j other _ => others j other) admitted ?_ ?_ cap noError
  · dsimp only
    split
    · exact .inr (.inl rfl)
    · exact .inl rfl
  · intro free
    by_contra midway
    exact free (by rw [if_neg midway]; rfl)
  · intro j other isAdmitted
    exact absurd isAdmitted (not_admitted (others j other))
  · have change := counted_set (x := (s.session k).step s.sessions ok) born
    have before := inv.counter
    have same : State.counted { s.set k ((s.session k).step s.sessions ok) with
        sessions := (s.session k).stage.counter s.sessions
        busy := if ((s.session k).step s.sessions ok).stage.resting then none else some k
        error := (effect s (.httpd ok)).error } =
          State.counted (s.set k ((s.session k).step s.sessions ok)) := rfl
    rw [same]
    dsimp only
    omega

theorem inv_upgrade {s : State} (inv : Inv s) (idle : s.busy = none)
    (noError : (effect s .upgrade).error = false) : Inv (effect s .upgrade) := by
  have rest (j : Nat) : (s.session j).stage.resting = true := inv.rests j (by rw [idle]; nofun)
  refine inv.change rfl (Nat.le_succ _) (Nat.lt_succ_self _) .checkCap (.inl rfl) ?_
    (fun j _ _ => rest j) nofun ?_ ?_ inv.cap noError
  · intro free
    exact absurd rfl free
  · intro j _ isAdmitted
    exact absurd isAdmitted (not_admitted (rest j))
  · have older : tally (Finset.range s.next) (fun j => (Function.update s.session s.next
        { stage := .checkCap } j).stage.counted = true) = s.counted := by
      refine tally_congr fun j inside => ?_
      rw [Function.update_of_ne (Nat.ne_of_lt (Finset.mem_range.mp inside))]
    have all := tally_range_succ s.next (fun j => (Function.update s.session s.next
      { stage := .checkCap } j).stage.counted = true)
    rw [older, Function.update_self, if_neg (by decide), Nat.add_zero] at all
    exact inv.counter.trans all.symm

theorem inv_freeCtx {s : State} (inv : Inv s) {k : Nat} (idle : s.busy = none)
    (active : (s.session k).stage = .active)
    (noError : (effect s (.freeCtx k)).error = false) : Inv (effect s (.freeCtx k)) := by
  have rest (j : Nat) : (s.session j).stage.resting = true := inv.rests j (by rw [idle]; nofun)
  have born : k < s.next := by
    by_contra beyond
    rw [inv.unborn k (Nat.le_of_not_lt beyond)] at active
    cases active
  have life : Life { s.session k with stage := .storeClosing } := by
    have before := inv.life k
    generalize s.session k = x at before active
    cases before with
    | active pump started => exact .storeClosing pump started
    | _ => cases active
  have same := counted_set (x := { s.session k with stage := .storeClosing }) born
  rw [active] at same
  refine inv.change rfl (Nat.le_refl _) born life (.inl rfl) ?_ (fun j _ _ => rest j) nofun ?_
    (inv.counter.trans (Nat.add_right_cancel same).symm) inv.cap noError
  · intro free
    exact absurd rfl free
  · intro j _ isAdmitted
    exact absurd isAdmitted (not_admitted (rest j))

theorem inv_pump {s : State} (inv : Inv s) {k : Nat} (runs : (s.session k).pump.runs = true)
    (ok : Bool) (noError : (effect s (.pump k ok)).error = false) :
    Inv (effect s (.pump k ok)) := by
  have born : k < s.next := by
    by_contra beyond
    rw [inv.unborn k (Nat.le_of_not_lt beyond)] at runs
    cases runs
  have same := counted_set (x := (s.session k).pumped ok) born
  exact inv.change rfl (Nat.le_refl _) born ((inv.life k).pumped runs ok) (.inr (.inr rfl))
    (inv.rests k) (fun j _ => inv.rests j) (inv.admitted k) (fun j _ => inv.admitted j)
    (inv.counter.trans (Nat.add_right_cancel same).symm) inv.cap noError

theorem inv_step (s : State) (a : Action) (inv : Inv s) (guard : system.Guard s a) :
    Inv (system.effect s a) := by
  have noError := inv.noError_effect guard
  cases a with
  | upgrade => exact inv_upgrade inv guard noError
  | httpd ok =>
      obtain ⟨k, busy, proceeds⟩ := guard
      exact inv_httpd inv busy proceeds ok noError
  | dataFrame k =>
      exact ⟨inv.life, inv.unborn, inv.busy, inv.rests, inv.admitted, inv.counter, inv.cap, noError⟩
  | freeCtx k => exact inv_freeCtx inv guard.1 guard.2 noError
  | pump k ok => exact inv_pump inv guard ok noError

theorem inv_reachable {s : State} (path : system.Reachable s) : Inv s :=
  path.invariant inv_init inv_step

/-! ## Teardown -/

structure Orderly (s : State) : Prop where
  /-- nothing is used after it is gone -/
  noError : s.error = false
  accounted : ∀ k, Accounted (s.session k)
  /-- `g_sessions` is the number of sessions whose set-up is through and whose `session_free` has
  not got to its `fetch_sub` -/
  counter : s.sessions.toNat = s.counted
  /-- between two calls of httpd, these are the sessions that exist -/
  atRest : s.busy = none → ∀ k, (s.session k).stage.counted = true ↔ (s.session k).object = .held
  cap : s.sessions ≤ maxWsSessions

/-- **Session teardown.** In every interleaving of httpd's task and the pumps, each session is
freed and its socket closed once, after the pump has ended; `g_sessions` counts the sessions and
stays within its cap; a set-up that fails leaves nothing behind. -/
theorem teardown {s : State} (path : system.Reachable s) : Orderly s := by
  have inv := inv_reachable path
  refine ⟨inv.noError, fun k => (inv.life k).accounted, inv.counter, fun idle k => ?_, ?_⟩
  · exact (inv.life k).counted_iff (inv.rests k (by rw [idle]; nofun))
  · exact UInt8.le_iff_toNat_le.mpr inv.cap

/-- The set-up of a session that comes through. -/
def setUp : List Action := .upgrade :: List.replicate 8 (.httpd true)

/-- The pump of session 0 meets the end of its stream and asks for the close; session 1 is refused
for want of a task; session 0 is freed. -/
def pumpLeavesFirst : List Action :=
  setUp ++ ([.pump 0 true, .pump 0 false, .pump 0 true, .upgrade, .httpd true, .httpd true, .httpd true,
    .httpd true, .httpd true, .httpd false, .httpd true, .httpd true, .httpd true, .pump 0 true,
    .freeCtx 0, .httpd true, .httpd true, .pump 0 true] : List Action) ++
    List.replicate 5 (.httpd true)

theorem teardown_pumpLeavesFirst :
    ∃ s, system.Reachable s ∧ (s.session 0).stage = .freed ∧ (s.session 1).stage = .refused ∧
      s.busy = none ∧ Orderly s := by
  refine ⟨_, system.reachable_final pumpLeavesFirst, ?_, ?_, ?_,
    teardown (system.reachable_final pumpLeavesFirst)⟩
  · decide +kernel
  · decide +kernel
  · decide +kernel

end NimbleProxy.Api.WsTeardown
