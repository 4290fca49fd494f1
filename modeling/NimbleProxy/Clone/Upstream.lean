/-
# Clone.Upstream -- the clone supervisor and its upstream client

The transition system of `clone_upstream.cpp`: the supervisor task
(`supervisor_task` and the `try_session` it calls) and the NimBLE host task that
delivers `ClientCb`. The supervisor is a program counter; each store to
`g_state`, each semaphore operation, each call into NimBLE or the mirror is one
step, whose outcome (`true` or `false`) is chosen by the environment. A callback
of the host task is one step and may come between any two of them.

NimBLE is the part in `link`: the one client has at most one attempt or link. A
`connect` is accepted only by a client that has neither, `discoverAttributes`
succeeds only on an established link, and `disconnect` acts on an established
link only.

The scanner calls, the idle poll before `finalize_server`, log levels and the
write queue are left out: no step of the supervisor depends on them. `dropped` is
bookkeeping that no step reads: whether `onDisconnect` was delivered since the
last `discoverAttributes` that succeeded.
-/
import NimbleProxy.Theory.ActionSystem

namespace NimbleProxy.Clone.Upstream

open NimbleProxy.Theory

set_option autoImplicit false

/-- `upstream::State`. -/
inductive UpState
  | disabled | idle | scanning | connecting | discovering | ready | reconnecting
  deriving DecidableEq, Repr

/-- The fields of `config::Target` the supervisor reads. -/
structure Target where
  enabled : Bool
  address : UInt64
  addressType : UInt8
  deriving DecidableEq

/-- What NimBLE holds for `g_client`. -/
inductive Link
  | idle
  | attempting
  /-- the attempt failed; `onConnectFail` is owed -/
  | failed
  /-- `onConnect` was delivered or is owed; once lost, `onDisconnect` is owed -/
  | up (announced lost : Bool)
  deriving DecidableEq

/-- An established link whose `onDisconnect` has not been delivered. -/
def Link.isUp : Link → Bool
  | .up _ _ => true
  | _ => false

/-- `NimBLEClient::disconnect`. -/
def Link.hangUp : Link → Link
  | .up announced _ => .up announced true
  | link => link

/-- `try_session` connects twice in its first session: once to learn the
structure, and once more after the local server is registered. -/
inductive Phase
  | first | steady
  deriving DecidableEq

/-- Where the supervisor is inside `try_session`; each position is named after what
it is about to do. -/
inductive SessionPos
  | createClient
  | storeConnecting
  | drainConnectSem (phase : Phase)
  | clearConnectOk (phase : Phase)
  | connect (phase : Phase)
  | awaitConnect (phase : Phase)
  | loadConnectOk (phase : Phase)
  | storeDiscovering
  | discover (phase : Phase)
  | buildFrom
  | drainDisconnectSem
  | dropMirror
  | clientDisconnect
  | awaitDisconnect
  | finalizeServer
  /-- `g_client->disconnect()` on the way to `return false` -/
  | hangUp
  | rebind
  | prime
  | subscribe
  | advertise
  | storeReady
  deriving DecidableEq

/-- Where the supervisor is inside `supervisor_task`. -/
inductive Pc
  | snapshot
  | storeDisabled
  | storeAddress (target : Target)
  | loadState (target : Target)
  | storeScanning (target : Target)
  | session (pos : SessionPos) (target : Target)
  /-- `try_session` returned false -/
  | backoff
  /-- pumping the write queue -/
  | pump
  deriving DecidableEq

def initialBackoffMs : UInt32 := 1000
def maxBackoffMs : UInt32 := 30000

structure State where
  pc : Pc := .snapshot
  target : Target := ⟨false, 0, 0⟩
  gState : UpState := .idle
  gAddress : UInt64 := 0
  gMtu : UInt16 := 0
  gReconnects : UInt32 := 0
  gLastDisconnectReason : UInt32 := 0
  clientCreated : Bool := false
  /-- binary semaphores; `none` until created -/
  connectSem : Option Bool := none
  disconnectSem : Option Bool := none
  connectOk : Bool := false
  mirrorBuilt : Bool := false
  /-- the mirror's `g_advertising` -/
  advertising : Bool := false
  backoffMs : UInt32 := initialBackoffMs
  link : Link := .idle
  dropped : Bool := false

/-- `return false` out of `try_session`, and the back-off it causes. -/
def State.sessionFailed (s : State) : State :=
  { s with pc := .backoff }

/-- `if (sem) xSemaphoreGive(sem);` -/
def give : Option Bool → Option Bool
  | some _ => some true
  | none => none

/-! ## The supervisor -/

/-- One step of `try_session` at `pos`. -/
def trySession (s : State) (target : Target) (outcome : Bool) (mtu : UInt16) :
    SessionPos → State
  | .createClient =>
      if s.clientCreated || outcome then
        { s with clientCreated := true, pc := .session .storeConnecting target }
      else s.sessionFailed
  | .storeConnecting =>
      { s with gState := .connecting, pc := .session (.drainConnectSem .first) target }
  | .drainConnectSem phase =>
      { s with connectSem := some false, pc := .session (.clearConnectOk phase) target }
  | .clearConnectOk phase => { s with connectOk := false, pc := .session (.connect phase) target }
  | .connect phase =>
      if outcome then { s with link := .attempting, pc := .session (.awaitConnect phase) target }
      else s.sessionFailed
  | .awaitConnect phase =>
      if outcome then { s with connectSem := some false, pc := .session (.loadConnectOk phase) target }
      else
        match phase with
        | .first => { s with pc := .session .hangUp target }
        | .steady => s.sessionFailed
  | .loadConnectOk phase =>
      if s.connectOk then
        { s with
          gMtu := mtu
          pc := .session (match phase with
            | .first => .storeDiscovering
            | .steady => .discover .steady) target }
      else s.sessionFailed
  | .storeDiscovering => { s with gState := .discovering, pc := .session (.discover .first) target }
  | .discover phase =>
      if outcome then
        { s with
          dropped := false
          pc := .session (match phase with
            | .first => if s.mirrorBuilt then .rebind else .buildFrom
            | .steady => .rebind) target }
      else { s with pc := .session .hangUp target }
  | .buildFrom =>
      { s with pc := .session (if outcome then .drainDisconnectSem else .hangUp) target }
  | .drainDisconnectSem => { s with disconnectSem := some false, pc := .session .dropMirror target }
  | .dropMirror => { s with pc := .session .clientDisconnect target }
  | .clientDisconnect => { s with link := s.link.hangUp, pc := .session .awaitDisconnect target }
  | .awaitDisconnect =>
      if outcome then { s with disconnectSem := some false, pc := .session .finalizeServer target }
      else s.sessionFailed
  | .finalizeServer =>
      if outcome then
        { s with mirrorBuilt := true, pc := .session (.drainConnectSem .steady) target }
      else s.sessionFailed
  | .hangUp => { s.sessionFailed with link := s.link.hangUp }
  | .rebind => { s with pc := .session (if outcome then .prime else .hangUp) target }
  | .prime => { s with pc := .session .subscribe target }
  | .subscribe => { s with pc := .session .advertise target }
  | .advertise =>
      if s.advertising then
        { s with gReconnects := s.gReconnects + 1, pc := .session .storeReady target }
      -- `start_advertising` starts nothing while the advertising switch is off
      else { s with advertising := outcome, pc := .session .storeReady target }
  | .storeReady => { s with gState := .ready, backoffMs := initialBackoffMs, pc := .pump }

/-- One step of `supervisor_task`. -/
def supervisorTask (s : State) (outcome : Bool) (mtu : UInt16) : State :=
  match s.pc with
  | .snapshot =>
      if !s.target.enabled || s.target.address == 0 then { s with pc := .storeDisabled }
      else { s with pc := .storeAddress s.target }
  | .storeDisabled => { s with gState := .disabled, pc := .snapshot }
  | .storeAddress target => { s with gAddress := target.address, pc := .loadState target }
  | .loadState target =>
      if s.gState = .ready then { s with pc := .pump } else { s with pc := .storeScanning target }
  | .storeScanning target => { s with gState := .scanning, pc := .session .createClient target }
  | .session pos target => trySession s target outcome mtu pos
  | .backoff =>
      { s with
        backoffMs := if s.backoffMs < maxBackoffMs then s.backoffMs * 2 else maxBackoffMs
        pc := .snapshot }
  | .pump => { s with pc := .snapshot }

/-! ## The host task -/

def onConnect (s : State) (lost : Bool) : State :=
  { s with link := .up true lost, connectOk := true, connectSem := give s.connectSem }

def onConnectFail (s : State) (reason : UInt32) : State :=
  { s with
    link := .idle
    connectOk := false
    gLastDisconnectReason := reason
    connectSem := give s.connectSem }

def onDisconnect (s : State) (reason : UInt32) : State :=
  { s with
    link := .idle
    gLastDisconnectReason := reason
    gState := .reconnecting
    disconnectSem := give s.disconnectSem
    dropped := true }

/-! ## The system -/

inductive Action
  /-- the supervisor's next step, with the outcome of what it calls -/
  | supervisor (outcome : Bool) (mtu : UInt16)
  /-- `config` gets a new target -/
  | configure (target : Target)
  | established
  | attemptFailed
  | linkLost (announced : Bool)
  | onConnect (lost : Bool)
  | onConnectFail (reason : UInt32)
  | onDisconnect (reason : UInt32)

/-- Whether the step is a callback, which the NimBLE host task runs. -/
def Action.onHostTask : Action → Bool
  | .onConnect _ | .onConnectFail _ | .onDisconnect _ => true
  | _ => false

/-- Whether what the supervisor is about to call can succeed. -/
def State.available (s : State) : Bool :=
  match s.pc with
  | .session (.connect _) _ => s.link == .idle
  | .session (.awaitConnect _) _ => s.connectSem == some true
  | .session (.discover _) _ => s.link.isUp
  | .session .awaitDisconnect _ => s.disconnectSem == some true
  | _ => true

def Guard (s : State) : Action → Prop
  | .supervisor outcome _ => outcome = true → s.available = true
  | .configure _ => True
  | .established => s.link = .attempting
  | .attemptFailed => s.link = .attempting
  | .linkLost announced => s.link = .up announced false
  | .onConnect lost => s.link = .up false lost
  | .onConnectFail _ => s.link = .failed
  | .onDisconnect _ => s.link = .up true true

instance (s : State) : (a : Action) → Decidable (Guard s a)
  | .supervisor outcome _ => inferInstanceAs (Decidable (outcome = true → s.available = true))
  | .configure _ => inferInstanceAs (Decidable True)
  | .established | .attemptFailed | .linkLost _ | .onConnect _ | .onConnectFail _
  | .onDisconnect _ => inferInstanceAs (Decidable (_ = _))

def effect (s : State) : Action → State
  | .supervisor outcome mtu => supervisorTask s outcome mtu
  | .configure target => { s with target }
  | .established => { s with link := .up false false }
  | .attemptFailed => { s with link := .failed }
  | .linkLost announced => { s with link := .up announced true }
  | .onConnect lost => onConnect s lost
  | .onConnectFail reason => onConnectFail s reason
  | .onDisconnect reason => onDisconnect s reason

def system : ActionSystem State Action where
  init := {}
  Guard := Guard
  guardDecidable := inferInstance
  effect := effect

/-- The supervisor leaves the link alone but for an accepted connect and its hang-ups. -/
theorem link_supervisorTask (s : State) (outcome : Bool) (mtu : UInt16) :
    (supervisorTask s outcome mtu).link = s.link ∨
      ((supervisorTask s outcome mtu).link = s.link.hangUp ∧
        ∃ target, s.pc = .session .clientDisconnect target ∨ s.pc = .session .hangUp target) ∨
      (outcome = true ∧ (supervisorTask s outcome mtu).link = .attempting ∧
        ∃ phase target, s.pc = .session (.connect phase) target) := by
  unfold supervisorTask
  cases pc : s.pc with
  | session pos target =>
      cases pos with
      | connect phase =>
          cases outcome with
          | false => exact .inl rfl
          | true => exact .inr (.inr ⟨rfl, rfl, phase, target, rfl⟩)
      | clientDisconnect => exact .inr (.inl ⟨rfl, target, .inl rfl⟩)
      | hangUp => exact .inr (.inl ⟨rfl, target, .inr rfl⟩)
      | createClient | awaitDisconnect | finalizeServer | loadConnectOk phase | discover phase
      | advertise =>
          left
          simp only [trySession]
          split <;> rfl
      | awaitConnect phase =>
          left
          simp only [trySession]
          split
          · rfl
          · cases phase <;> rfl
      | storeConnecting | drainConnectSem phase | clearConnectOk phase | storeDiscovering
      | buildFrom | drainDisconnectSem | dropMirror | rebind | prime | subscribe | storeReady =>
          exact .inl rfl
  | snapshot | loadState target =>
      left
      simp only
      split <;> rfl
  | storeDisabled | storeAddress target | storeScanning target | backoff | pump => exact .inl rfl

/-- The ways inside `try_session`, from a position to the next. -/
inductive Edge (s : State) (outcome : Bool) : SessionPos → SessionPos → Prop
  | created : Edge s outcome .createClient .storeConnecting
  | connecting : Edge s outcome .storeConnecting (.drainConnectSem .first)
  | drained (phase : Phase) : Edge s outcome (.drainConnectSem phase) (.clearConnectOk phase)
  | cleared (phase : Phase) : Edge s outcome (.clearConnectOk phase) (.connect phase)
  | issued (phase : Phase) : outcome = true → Edge s outcome (.connect phase) (.awaitConnect phase)
  | answered (phase : Phase) : Edge s outcome (.awaitConnect phase) (.loadConnectOk phase)
  | timedOut : Edge s outcome (.awaitConnect .first) .hangUp
  | connected : Edge s outcome (.loadConnectOk .first) .storeDiscovering
  | reconnected : Edge s outcome (.loadConnectOk .steady) (.discover .steady)
  | discovering : Edge s outcome .storeDiscovering (.discover .first)
  | unknown : outcome = true → s.mirrorBuilt = false → Edge s outcome (.discover .first) .buildFrom
  | known (phase : Phase) : outcome = true → Edge s outcome (.discover phase) .rebind
  | undiscovered (phase : Phase) : Edge s outcome (.discover phase) .hangUp
  | captured : Edge s outcome .buildFrom .drainDisconnectSem
  | uncaptured : Edge s outcome .buildFrom .hangUp
  | dropping : Edge s outcome .drainDisconnectSem .dropMirror
  | dropped : Edge s outcome .dropMirror .clientDisconnect
  | disconnecting : Edge s outcome .clientDisconnect .awaitDisconnect
  | disconnected : Edge s outcome .awaitDisconnect .finalizeServer
  | finalized : Edge s outcome .finalizeServer (.drainConnectSem .steady)
  | rebound : outcome = true → Edge s outcome .rebind .prime
  | unmatched : Edge s outcome .rebind .hangUp
  | primed : Edge s outcome .prime .subscribe
  | subscribed : Edge s outcome .subscribe .advertise
  | advertised : Edge s outcome .advertise .storeReady

/-- The supervisor is inside `try_session` because it has just called it, or because it was there. -/
theorem edge_supervisorTask {s : State} {outcome : Bool} {mtu : UInt16} {pos : SessionPos}
    {target : Target} (after : (supervisorTask s outcome mtu).pc = .session pos target) :
    (pos = .createClient ∧ s.pc = .storeScanning target) ∨
      ∃ pos', s.pc = .session pos' target ∧ Edge s outcome pos' pos := by
  unfold supervisorTask at after
  cases pc : s.pc with
  | session pos' target' =>
      right
      simp only [pc] at after
      cases pos' with
      | createClient | connect phase | awaitDisconnect | finalizeServer | advertise =>
          simp only [trySession] at after
          split at after <;> cases after
          all_goals exact ⟨_, rfl, by constructor; try assumption⟩
      | awaitConnect phase | loadConnectOk phase =>
          simp only [trySession] at after
          split at after
          · cases phase <;> cases after <;> exact ⟨_, rfl, by constructor⟩
          · cases phase <;> cases after <;> exact ⟨_, rfl, by constructor⟩
      | discover phase =>
          cases outcome with
          | false => cases after; exact ⟨_, rfl, .undiscovered phase⟩
          | true =>
              cases phase with
              | steady => cases after; exact ⟨_, rfl, .known .steady rfl⟩
              | first =>
                  simp only [trySession] at after
                  cases built : s.mirrorBuilt with
                  | true => rw [built] at after; cases after; exact ⟨_, rfl, .known .first rfl⟩
                  | false => rw [built] at after; cases after; exact ⟨_, rfl, .unknown rfl built⟩
      | buildFrom =>
          cases outcome with
          | false => cases after; exact ⟨_, rfl, .uncaptured⟩
          | true => cases after; exact ⟨_, rfl, .captured⟩
      | rebind =>
          cases outcome with
          | false => cases after; exact ⟨_, rfl, .unmatched⟩
          | true => cases after; exact ⟨_, rfl, .rebound rfl⟩
      | hangUp | storeReady => cases after
      | storeConnecting | drainConnectSem phase | clearConnectOk phase | storeDiscovering
      | drainDisconnectSem | dropMirror | clientDisconnect | prime | subscribe =>
          cases after
          exact ⟨_, rfl, by constructor⟩
  | storeScanning t =>
      simp only [pc] at after
      cases after
      exact .inl ⟨rfl, rfl⟩
  | snapshot | loadState t =>
      simp only [pc] at after
      split at after <;> cases after
  | storeDisabled | storeAddress t | backoff | pump =>
      simp only [pc] at after
      cases after

end NimbleProxy.Clone.Upstream
