/-
# Clone.Session -- the clone supervisor with its mirror and its write queue

The product of `Upstream.system` with the mirror and with the path of a local write:
`CharCb::onWrite` looks the row up under the mirror's mutex, invalidates its cache
under the mutex again, and queues the write without it (`enqueue_write`); the
supervisor takes it from `g_write_queue` while it pumps or backs off
(`drain_writes_until`).

`onWrite` and the upstream `ClientCb` callbacks run on the one NimBLE host task, so
none of them comes between two steps of another. A local central can write once the
server is registered. `rebind_upstream` and `disconnect_upstream` hold the mutex;
`build_from` does not, but what it writes is touched by nobody else before
`g_built`, so each of them is one step.

What NimBLE answers is chosen by the environment (`Answers`): the table that
`discoverAttributes` finds, the services `createService` refuses and whether
`NimBLEServer::start` succeeds. `discovery`
numbers the accepted connects; a connect deletes the attributes of the one before
it. `executed` is bookkeeping: the writes that were executed, each with the
discovery that was current at that moment.
-/
import NimbleProxy.Clone.Upstream
import NimbleProxy.Clone.Mirror

namespace NimbleProxy.Clone.Session

open NimbleProxy.Theory NimbleProxy.Clone.Mirror ActionSystem
open NimbleProxy.Backend.GattDiscovery (RemoteService)

set_option autoImplicit false

/-! ## State -/

/-- `WRITE_QUEUE_DEPTH`. -/
def writeQueueDepth : Nat := 8

structure WriteRequest where
  upstreamChr : RemotePtr
  data : List UInt8
  withResponse : Bool
  deriving DecidableEq

/-- Where the host task is inside `CharCb::onWrite`. -/
inductive HostPc
  | idle
  /-- `row` was found, with `up` as its `upstream` -/
  | located (row : Nat) (up : Option RemotePtr) (data : List UInt8)
  /-- about to call `enqueue_write` -/
  | enqueue (request : WriteRequest)
  deriving DecidableEq

structure State where
  up : Upstream.State := {}
  mirror : Mirror.State := {}
  discovery : Nat := 0
  /-- the attribute table of `g_client` -/
  table : List RemoteService := []
  queue : List WriteRequest := []
  host : HostPc := .idle
  executed : List (WriteRequest × Nat) := []

/-- What NimBLE answers to one step of the supervisor. -/
structure Answers where
  found : List RemoteService := []
  refused : List Nat := []
  /-- what `NimBLEServer::start` returns, if it is called -/
  started : Bool := true

/-! ## The supervisor's calls -/

/-- The mirror after the call the supervisor is about to make, and the result of the call. -/
def mirrorCall (config : Config) (s : State) (outcome : Bool) (answers : Answers) :
    Mirror.State × Bool :=
  match s.up.pc with
  | .session .buildFrom _ => buildFrom config s.mirror s.discovery s.table answers.refused
  | .session .dropMirror _ => (disconnectUpstream s.mirror, outcome)
  | .session .finalizeServer _ => finalizeServer config s.mirror answers.started
  | .session .rebind _ => rebindUpstream s.mirror s.discovery s.table
  | _ => (s.mirror, outcome)

/-- The client's table after `connect` with `deleteAttributes` and after `discoverAttributes`. -/
def clientTable (s : State) (outcome : Bool) (answers : Answers) : List RemoteService :=
  match s.up.pc with
  | .session (.connect _) _ => if outcome then [] else s.table
  | .session (.discover _) _ => if outcome then answers.found else s.table
  | _ => s.table

/-- The supervisor is at this place of `try_session`. -/
def isAt (pos : Upstream.SessionPos) : Upstream.Pc → Bool
  | .session pos' _ => pos' == pos
  | _ => false

theorem isAt_iff {pos : Upstream.SessionPos} {pc : Upstream.Pc} :
    isAt pos pc = true ↔ ∃ target, pc = .session pos target := by
  cases pc <;> simp [isAt]

/-- The supervisor is about to call `client->connect`. -/
def connecting (pc : Upstream.Pc) : Bool :=
  match pc with
  | .session (.connect _) _ => true
  | _ => false

/-- The supervisor is in `drain_writes_until`. -/
def draining (pc : Upstream.Pc) : Bool :=
  match pc with
  | .backoff | .pump => true
  | _ => false

def upstreamStep (config : Config) (s : State) (a : Upstream.Action) (answers : Answers) : State :=
  match a with
  | .supervisor outcome _ =>
      { s with
        up := Upstream.effect s.up a
        mirror := (mirrorCall config s outcome answers).1
        discovery := if connecting s.up.pc && outcome then s.discovery + 1 else s.discovery
        table := clientTable s outcome answers }
  | .onDisconnect _ =>
      { s with up := Upstream.effect s.up a, mirror := disconnectUpstream s.mirror }
  | _ => { s with up := Upstream.effect s.up a }

/-! ## Local writes -/

/-- The first part of `onWrite`: the row of the local characteristic with this `id`. -/
def onWrite (s : State) (chr : Nat) (data : List UInt8) : State :=
  match s.mirror.chars.findIdx? fun row => row.localChar.id == chr with
  | some i => { s with host := .located i (s.mirror.chars[i]?.bind MirrorChar.upstream) data }
  | none => s

/-- The second part: the cache is invalidated, and a write without a remote characteristic is
dropped. -/
def onWriteLocated (s : State) (i : Nat) (up : Option RemotePtr) (data : List UInt8) : State :=
  let props := (s.mirror.chars[i]?.map MirrorChar.upstreamProps).getD 0
  { s with
    mirror := { s.mirror with
      chars := s.mirror.chars.modify i fun row => { row with cache := [], primed := false } }
    host := match up with
      | some ptr => .enqueue ⟨ptr, data, decide (props &&& flagWrite ≠ 0)⟩
      | none => .idle }

/-- `enqueue_write`. -/
def enqueueWrite (config : Config) (s : State) (request : WriteRequest) : State :=
  if request.data.length = 0 ∨ config.cacheBytes < request.data.length ∨
      writeQueueDepth ≤ s.queue.length then { s with host := .idle }
  else { s with host := .idle, queue := s.queue ++ [request] }

/-! ## The system -/

inductive Action
  | upstream (a : Upstream.Action) (answers : Answers)
  /-- a local central writes the characteristic `chr` -/
  | onWrite (chr : Nat) (data : List UInt8)
  | onWriteLocated (row : Nat) (up : Option RemotePtr) (data : List UInt8)
  | enqueueWrite (request : WriteRequest)
  /-- the supervisor takes a request from the queue and executes it -/
  | drainWrite (request : WriteRequest) (rest : List WriteRequest)

/-- The outcome of a supervisor step is the result of the mirror function it calls. -/
def Answered (config : Config) (s : State) (a : Upstream.Action) (answers : Answers) : Prop :=
  match a with
  | .supervisor outcome _ => (mirrorCall config s outcome answers).2 = outcome
  | _ => True

instance (config : Config) (s : State) (answers : Answers) :
    (a : Upstream.Action) → Decidable (Answered config s a answers)
  | .supervisor .. => inferInstanceAs (Decidable (_ = _))
  | .configure _ | .established | .attemptFailed | .linkLost _ | .onConnect _ | .onConnectFail _
  | .onDisconnect _ => inferInstanceAs (Decidable True)

def Guard (config : Config) (s : State) : Action → Prop
  | .upstream a answers =>
      Upstream.Guard s.up a ∧ (a.onHostTask = true → s.host = .idle) ∧ Answered config s a answers
  | .onWrite _ _ => s.host = .idle ∧ s.mirror.built = true
  | .onWriteLocated row up data => s.host = .located row up data
  | .enqueueWrite request => s.host = .enqueue request
  | .drainWrite request rest => s.queue = request :: rest ∧ draining s.up.pc = true

instance (config : Config) (s : State) : (a : Action) → Decidable (Guard config s a)
  | .upstream .. => inferInstanceAs (Decidable (_ ∧ (_ → _) ∧ _))
  | .onWrite .. | .drainWrite .. => inferInstanceAs (Decidable (_ ∧ _))
  | .onWriteLocated .. | .enqueueWrite .. => inferInstanceAs (Decidable (_ = _))

def effect (config : Config) (s : State) : Action → State
  | .upstream a answers => upstreamStep config s a answers
  | .onWrite chr data => onWrite s chr data
  | .onWriteLocated row up data => onWriteLocated s row up data
  | .enqueueWrite request => enqueueWrite config s request
  | .drainWrite request rest =>
      { s with queue := rest, executed := s.executed ++ [(request, s.discovery)] }

def system (config : Config) : ActionSystem State Action where
  init := {}
  Guard := Guard config
  guardDecidable := inferInstance
  effect := effect config

/-! ## A session with a small device -/

/-- A battery service with its level, which can be read and written. -/
def levelTable : List RemoteService :=
  [⟨1, .uuid16 0x180f, [⟨3, .uuid16 0x2a19, { read := true, write := true }, []⟩]⟩]

def smallConfig : Config := ⟨64, 64, false⟩

/-- Successful steps of the supervisor. -/
def steps (n : Nat) : List Action :=
  List.replicate n (Action.upstream (.supervisor true 247) { found := levelTable })

def link (a : Upstream.Action) : Action := .upstream a {}

/-- The first session up to the end of the intermediate disconnect. -/
def capturedSchedule : List Action :=
  [link (.configure ⟨true, 7, 0⟩)] ++ steps 9 ++
  [link .established, link (.onConnect false)] ++ steps 8 ++ [link (.onDisconnect 22)]

/-- The first session to its end. -/
def bringUpSchedule : List Action :=
  capturedSchedule ++ steps 5 ++ [link .established, link (.onConnect false)] ++ steps 8

end NimbleProxy.Clone.Session
