/-
# Backend.PowerOff -- who touches NimBLE after a runtime power-off

`power_off` ends in `NimBLEDevice::deinit(true)`, which deletes the scan, the server,
the advertising object and the clients. The program keeps pointers to them: `g_scan`,
`g_server` and `g_adv` of the mirror (and the `g_server` of `ble_httpd`), the clients
of the connection slots, the `g_client` of the clone. None of them is cleared.

The system is the product of the settings, the connection slots and the clone with POST
/trace, the OTA hooks and the rounds of the power supervisor. Every step has the list of
the objects it calls (`uses`); a step that calls a deleted one is the error. `Gone` is
bookkeeping: which pointers were set at the power-off. `getScan()`, `getAdvertising()`
and `createClient()` answer with an object that is there, so a function that asks for one
and does not keep it is safe.

NimBLE ends its host task before it deletes anything: no callback comes after that, and
none is cut short. Whether the scan and the advertising run is left out, except for what
the settings say: a call asks the object whether it runs, so it touches it in any case.
-/
import NimbleProxy.Api.Settings
import NimbleProxy.Backend.Connection
import NimbleProxy.Backend.PowerSupervisor
import NimbleProxy.Clone.Session

namespace NimbleProxy.Backend.PowerOff

open NimbleProxy.Theory NimbleProxy.Api NimbleProxy.Clone ActionSystem
open NimbleProxy.Backend.PowerSupervisor (Order)

set_option autoImplicit false

/-! ## State -/

/-- The objects to which the program keeps pointers. -/
inductive Object
  | scan
  /-- the server, with the services and characteristics of the mirror -/
  | server
  | advertising
  | slotClient (c : ClientPtr)
  /-- `g_client`, with its remote characteristics -/
  | cloneClient
  deriving DecidableEq

/-- The pointers that were set when NimBLE deleted its objects. -/
structure Gone where
  /-- the clients below this number -/
  clients : ClientPtr
  cloneClient : Bool
  server : Bool
  advertising : Bool
  deriving DecidableEq

structure State where
  device : Settings.Device
  backend : Connection.State := {}
  clone : Session.State := {}
  gone : Option Gone := none
  /-- a deleted object was called -/
  error : Bool := false

namespace State

variable (s : State)

def radio : Radio := s.device.ram.radio

def setRadio (radio : Radio) : State :=
  { s with device := { s.device with ram := { s.device.ram with radio } } }

/-- `NimBLEDevice::deinit(true)`. -/
def deinit (config : Mirror.Config) : State :=
  { s with
    gone := some
      { clients := s.backend.nextClient
        cloneClient := s.clone.up.clientCreated
        server := s.clone.mirror.server || config.bleHttpd
        advertising := s.clone.mirror.built } }

end State

/-- Deleted, and the pointer to it is still kept. -/
def Gone.deleted (gone : Gone) : Object → Bool
  | .scan => true
  | .server => gone.server
  | .advertising => gone.advertising
  | .slotClient c => decide (c < gone.clients)
  | .cloneClient => gone.cloneClient

def State.deleted (s : State) (o : Object) : Bool := (s.gone.map fun gone => gone.deleted o).getD false

/-! ## Actions -/

inductive Action
  | post (post : Settings.Post) (answers : Settings.Answers)
  /-- POST /trace -/
  | trace (on ok : Bool)
  | backend (a : Connection.Action)
  /-- a GATT request of an API client -/
  | gattRequest (address : UInt64)
  | clone (a : Session.Action)
  /-- a round of the power supervisor, with what it does about the scan -/
  | tick (order : Order) (ok : Bool)
  | quiesceForOta
  | resumeAfterOta (scanOk advOk : Bool)

/-- What the host task of NimBLE does for the slots, and what happens to their links. -/
def ofHost : Connection.Action → Bool
  | .established .. | .attemptFailed .. | .linkLost .. | .onConnect .. | .onConnectFail ..
  | .onDisconnect .. | .hostCallback .. | .hostNotify | .hostResume => true
  | _ => false

/-- What it does for the clone. -/
def ofCloneHost : Session.Action → Bool
  | .upstream (.supervisor ..) _ | .upstream (.configure _) _ | .drainWrite .. => false
  | _ => true

/-- The device after a POST. -/
def posted (s : State) (post : Settings.Post) (answers : Settings.Answers) : Settings.Device :=
  (Settings.handle s.device post answers).1

/-- The POST calls `power_off`, and BLE is not off yet. -/
def powersOff (s : State) (post : Settings.Post) (answers : Settings.Answers) : Bool :=
  (posted s post answers).ram.radio.poweredOff && !s.radio.poweredOff

/-! ## What a step calls -/

/-- A function of `scanner.cpp` that begins with `if (!g_scan) return`. -/
def scanUses (s : State) : List Object := if s.radio.scan then [.scan] else []

def postUses (s : State) : Settings.Post → List Object
  | .scan query =>
      match Settings.parseScan s.radio.windowMs s.radio.intervalMs query with
      | .ok _ => scanUses s
      | .error _ => []
  | _ => []

def backendUses (s : State) : Connection.Action → List Object
  | .connectIssue _ f _ => [.slotClient f.client]
  | .disconnectCall _ c => [.slotClient c]
  | .onConnect c _ _ _ => [.slotClient c]
  | .hostResume => scanUses s
  | _ => []

/-- `client_for`. -/
def clientFor (slots : SlotTable) (address : UInt64) : Option ClientPtr :=
  (slots.findByAddrLocked address).bind fun i =>
    if (slots i).state = .connected then (slots i).client else none

/-- The local characteristics of the rows. -/
def rowUses (m : Mirror.State) : List Object := if m.chars.isEmpty then [] else [.server]

/-- A row with this property is bound. -/
def anyBound (m : Mirror.State) (mask : UInt16) : Bool :=
  m.chars.any fun row => row.upstream.isSome && decide (row.upstreamProps &&& mask ≠ 0)

/-- `finalize_server`, and the `scanner::resume` if it fails. -/
def finalizeUses (config : Mirror.Config) (m : Mirror.State) (outcome : Bool) : List Object :=
  (if !m.server || m.built then []
    else if config.bleHttpd then (if m.activated then [] else [.scan, .server]) ++ rowUses m
    else .server :: if outcome then rowUses m else []) ++
  if outcome then [] else [.scan]

/-- The next step of the clone supervisor. -/
def supervisorUses (config : Mirror.Config) (s : Session.State) (outcome : Bool) : List Object :=
  match s.up.pc with
  | .session pos _ =>
      match pos with
      | .connect _ | .discover _ | .clientDisconnect | .hangUp => [.cloneClient]
      | .loadConnectOk _ => if s.up.connectOk then [.cloneClient, .scan] else []
      | .buildFrom => .cloneClient :: if s.mirror.built then rowUses s.mirror else []
      | .drainDisconnectSem => [.scan]
      | .awaitDisconnect => if outcome then [] else [.scan]
      | .finalizeServer => finalizeUses config s.mirror outcome
      | .rebind => if s.mirror.built then .cloneClient :: rowUses s.mirror else []
      | .prime => if anyBound s.mirror Mirror.flagRead then [.cloneClient, .server] else []
      | .subscribe =>
          if anyBound s.mirror (Mirror.flagNotify ||| Mirror.flagIndicate) then [.cloneClient] else []
      | .advertise =>
          if s.up.advertising then []
          else .cloneClient :: if s.mirror.built then .advertising :: rowUses s.mirror else []
      | .createClient | .storeConnecting | .drainConnectSem _ | .clearConnectOk _ | .awaitConnect _
      | .storeDiscovering | .dropMirror | .storeReady => []
  | _ => []

def cloneUses (config : Mirror.Config) (s : Session.State) : Session.Action → List Object
  | .upstream (.supervisor outcome _) _ => supervisorUses config s outcome
  | .upstream (.onConnect _) _ => [.cloneClient]
  | .onWrite .. => [.server]
  | .drainWrite .. => [.cloneClient]
  | _ => []

def uses (config : Mirror.Config) (s : State) : Action → List Object
  | .post post _ => postUses s post
  | .trace .. | .quiesceForOta | .resumeAfterOta .. => scanUses s
  | .backend a => backendUses s a
  | .gattRequest address => (clientFor s.backend.slots address).toList.map .slotClient
  | .clone a => cloneUses config s.clone a
  | .tick order _ => if order = .nothing then [] else scanUses s

/-! ## The system -/

def Guard (config : Mirror.Config) (s : State) : Action → Prop
  | .post post answers =>
      powersOff s post answers = true → s.backend.host = .idle ∧ s.clone.host = .idle
  | .trace .. | .gattRequest _ | .quiesceForOta | .resumeAfterOta .. => True
  | .backend a => Connection.Guard s.backend a ∧ (s.gone.isSome = true → ofHost a = false)
  | .clone a => Session.Guard config s.clone a ∧ (s.gone.isSome = true → ofCloneHost a = false)
  -- it stands down while BLE is off or quiesced
  | .tick order _ => (s.radio.poweredOff || s.radio.otaQuiesce) = true → order = .nothing

instance (config : Mirror.Config) (s : State) : (a : Action) → Decidable (Guard config s a)
  | .post .. => inferInstanceAs (Decidable (_ → _ ∧ _))
  | .trace .. | .gattRequest _ | .quiesceForOta | .resumeAfterOta .. =>
      inferInstanceAs (Decidable True)
  | .backend _ | .clone _ => inferInstanceAs (Decidable (_ ∧ (_ → _)))
  | .tick .. => inferInstanceAs (Decidable (_ → _))

def apply (config : Mirror.Config) (s : State) : Action → State
  | .post post answers =>
      let next := { s with device := posted s post answers }
      if powersOff s post answers then next.deinit config else next
  | .trace on ok => s.setRadio (if on then s.radio.pause else s.radio.resume ok)
  | .backend a => { s with backend := Connection.effect s.backend a }
  | .gattRequest _ => s
  | .clone a => { s with clone := Session.effect config s.clone a }
  | .tick order ok =>
      s.setRadio (match order with
        | .nothing => s.radio
        | .quiesce => s.radio.pause
        | .restore => s.radio.resume ok)
  | .quiesceForOta => s.setRadio s.radio.quiesceForOta
  | .resumeAfterOta scanOk advOk => s.setRadio (s.radio.resumeAfterOta scanOk advOk)

/-- A step that calls a deleted object is the error; what it does then means nothing. -/
def effect (config : Mirror.Config) (s : State) (a : Action) : State :=
  { apply config s a with error := s.error || (uses config s a).any s.deleted }

/-- The device has booted from `nvs`; NimBLE has started, with these answers. -/
def system (config : Mirror.Config) (nvs : Settings.Nvs) (scanStart advStart : Bool) :
    ActionSystem State Action where
  init := { device := Settings.boot nvs scanStart advStart }
  Guard := Guard config
  guardDecidable := inferInstance
  effect := effect config

/-! ## The condition -/

def rejects (s : State) (query : Settings.Query) : Bool :=
  match Settings.parseScan s.radio.windowMs s.radio.intervalMs query with
  | .ok _ => false
  | .error _ => true

/-- What may still be done after the power-off. -/
def SparedAfter (config : Mirror.Config) (s : State) (gone : Gone) : Action → Prop
  | .post (.scan query) _ => rejects s query = true
  | .post _ _ | .tick .. => True
  | .trace .. | .quiesceForOta | .resumeAfterOta .. => False
  | .backend (.connectIssue _ f _) => gone.clients ≤ f.client
  | .backend (.disconnectCall _ c) => gone.clients ≤ c
  | .backend _ => True
  | .gattRequest address => ∀ c ∈ clientFor s.backend.slots address, gone.clients ≤ c
  | .clone a => gone.cloneClient = true → cloneUses config s.clone a = []

instance (config : Mirror.Config) (s : State) (gone : Gone) :
    (a : Action) → Decidable (SparedAfter config s gone a)
  | .post (.scan _) _ => inferInstanceAs (Decidable (_ = _))
  | .trace .. | .quiesceForOta | .resumeAfterOta .. => inferInstanceAs (Decidable False)
  | .backend (.connectIssue ..) | .backend (.disconnectCall ..) =>
      inferInstanceAs (Decidable (_ ≤ _))
  | .gattRequest _ => inferInstanceAs (Decidable (∀ _ ∈ _, _ ≤ _))
  | .clone _ => inferInstanceAs (Decidable (_ → _ = _))
  | .tick .. | .post (.level _) _ | .post (.txpower _) _ | .post (.cpufreq _) _
  | .post (.advitvl _) _ | .post (.wifips _) _ | .backend (.connectLocked ..)
  | .backend (.connectNotify ..) | .backend (.connectStopScan ..) | .backend (.connectUnissued ..)
  | .backend (.releaseNotify ..) | .backend (.connectCallback ..) | .backend (.disconnectLocked ..)
  | .backend (.established ..) | .backend (.attemptFailed ..) | .backend (.linkLost ..)
  | .backend (.onConnect ..) | .backend (.onConnectFail ..) | .backend (.onDisconnect ..)
  | .backend (.hostCallback ..) | .backend .hostNotify | .backend .hostResume =>
      inferInstanceAs (Decidable True)

/-- **The condition.** After the power-off no POST /scan is accepted, nobody uses POST /trace or
uploads an image, no API request gets to a client from before, and the clone does not go on with
one. -/
def Spared (config : Mirror.Config) (s : State) (a : Action) : Prop :=
  ∀ gone ∈ s.gone, SparedAfter config s gone a

instance (config : Mirror.Config) (s : State) (a : Action) : Decidable (Spared config s a) :=
  inferInstanceAs (Decidable (∀ _ ∈ _, _))

end NimbleProxy.Backend.PowerOff
