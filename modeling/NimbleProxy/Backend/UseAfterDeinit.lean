/-
# Backend.UseAfterDeinit -- which runs call a deleted object

The clone decides most of it. A supervisor that had no client when BLE was powered off makes one
that nothing connects: it goes around in the first positions of `try_session` (`Early`) and calls
nothing but this client. One that had a client calls something that is gone at each of its calls
into NimBLE: the client, the scan or the server. The settings, /trace, the OTA hooks and the slots
decide for themselves: each calls the scan or a client that is older than the power-off, or neither.
-/
import NimbleProxy.Backend.PowerOff

namespace NimbleProxy.Backend.PowerOff

open NimbleProxy.Theory NimbleProxy.Api NimbleProxy.Clone ActionSystem

set_option autoImplicit false

/-! ## A clone without a client -/

/-- The places before `createClient` has answered. -/
def beforeClient : Upstream.Pc → Bool
  | .session .createClient _ => true
  | .session .. => false
  | _ => true

/-- The places at which no client has connected. -/
def beforeConnect : Upstream.Pc → Bool
  | .session pos _ =>
      match pos with
      | .createClient | .storeConnecting | .drainConnectSem .first | .clearConnectOk .first
      | .connect .first | .awaitConnect .first | .loadConnectOk .first | .hangUp => true
      | _ => false
  | _ => true

/-- The clone has never had a client. -/
structure Untried (s : Session.State) : Prop where
  pc : beforeClient s.up.pc = true
  link : s.up.link = .idle
  connectOk : s.up.connectOk = false
  built : s.mirror.built = false
  queue : s.queue = []
  host : s.host = .idle

/-- Its client, if it has one, has never connected. -/
structure Early (s : Session.State) : Prop where
  pc : beforeConnect s.up.pc = true
  connectOk : s.up.connectOk = false
  queue : s.queue = []

theorem Untried.early {s : Session.State} (untried : Untried s) : Early s where
  pc := by
    have before := untried.pc
    cases pc : s.up.pc with
    | session pos target => cases pos <;> simp_all [beforeClient, beforeConnect]
    | _ => rfl
  connectOk := untried.connectOk
  queue := untried.queue

section Clone

variable {config : Mirror.Config} {s : Session.State}

/-- As long as the supervisor has no client, it stays before `createClient`. -/
theorem beforeClient_supervisorTask {u : Upstream.State} {outcome : Bool} {mtu : UInt16}
    (before : beforeClient u.pc = true)
    (none : (Upstream.supervisorTask u outcome mtu).clientCreated = false) :
    beforeClient (Upstream.supervisorTask u outcome mtu).pc = true ∧
      (Upstream.supervisorTask u outcome mtu).link = u.link ∧
      (Upstream.supervisorTask u outcome mtu).connectOk = u.connectOk := by
  unfold Upstream.supervisorTask at none ⊢
  cases pc : u.pc with
  | session pos target =>
      cases pos with
      | createClient =>
          simp only [pc, Upstream.trySession] at none ⊢
          split at none
          · cases none
          · rename_i failed
            rw [if_neg failed]
            exact ⟨rfl, rfl, rfl⟩
      | _ => rw [pc] at before; cases before
  | snapshot | loadState target =>
      simp only
      split <;> exact ⟨rfl, rfl, rfl⟩
  | storeDisabled | storeAddress target | storeScanning target | backoff | pump =>
      exact ⟨rfl, rfl, rfl⟩

theorem mirrorCall_of_beforeClient {outcome : Bool} {answers : Session.Answers}
    (before : beforeClient s.up.pc = true) :
    (Session.mirrorCall config s outcome answers).1 = s.mirror := by
  unfold Session.mirrorCall
  cases pc : s.up.pc with
  | session pos target =>
      rw [pc] at before
      cases pos with
      | createClient => rfl
      | _ => cases before
  | _ => rfl

/-- A client, once created, stays. -/
theorem clientCreated_supervisorTask {u : Upstream.State} {outcome : Bool} {mtu : UInt16}
    (created : u.clientCreated = true) :
    (Upstream.supervisorTask u outcome mtu).clientCreated = true := by
  unfold Upstream.supervisorTask
  cases u.pc with
  | session pos target =>
      cases pos <;> simp only [Upstream.trySession] <;> repeat' split
      all_goals first | exact created | rfl
  | snapshot | loadState target =>
      simp only
      split <;> exact created
  | storeDisabled | storeAddress target | storeScanning target | backoff | pump => exact created

theorem clientCreated_effect (a : Session.Action) (created : s.up.clientCreated = true) :
    (Session.effect config s a).up.clientCreated = true := by
  cases a with
  | upstream a answers =>
      cases a with
      | supervisor outcome mtu => exact clientCreated_supervisorTask created
      | _ => exact created
  | onWrite chr data =>
      simp only [Session.effect, Session.onWrite]
      split <;> exact created
  | enqueueWrite request =>
      simp only [Session.effect, Session.enqueueWrite]
      split <;> exact created
  | onWriteLocated row up data | drainWrite request rest => exact created

theorem Untried.step (untried : Untried s) {a : Session.Action}
    (guard : Session.Guard config s a)
    (none : (Session.effect config s a).up.clientCreated = false) :
    Untried (Session.effect config s a) := by
  cases a with
  | upstream a answers =>
      cases a with
      | supervisor outcome mtu =>
          obtain ⟨pc, link, connectOk⟩ := beforeClient_supervisorTask untried.pc none
          refine ⟨pc, link.trans untried.link, connectOk.trans untried.connectOk, ?_, untried.queue,
            untried.host⟩
          exact (congrArg Mirror.State.built (mirrorCall_of_beforeClient untried.pc)).trans
            untried.built
      | configure target =>
          exact ⟨untried.pc, untried.link, untried.connectOk, untried.built, untried.queue,
            untried.host⟩
      | established | attemptFailed | linkLost announced | onConnect lost | onConnectFail reason
      | onDisconnect reason =>
          -- there is no attempt and no link
          have there := guard.1
          simp [Upstream.Guard, untried.link] at there
  | onWrite chr data =>
      have served := guard.2
      rw [untried.built] at served
      cases served
  | onWriteLocated row up data =>
      have inside : s.host = .located row up data := guard
      rw [untried.host] at inside
      cases inside
  | enqueueWrite request =>
      have inside : s.host = .enqueue request := guard
      rw [untried.host] at inside
      cases inside
  | drainWrite request rest =>
      have queued := guard.1
      rw [untried.queue] at queued
      cases queued

theorem untried (path : (Session.system config).Reachable s) (none : s.up.clientCreated = false) :
    Untried s := by
  refine path.invariant (P := fun s => s.up.clientCreated = false → Untried s)
    (fun _ => ⟨rfl, rfl, rfl, rfl, rfl, rfl⟩) ?_ none
  intro s a held guard none'
  refine (held ?_).step guard none'
  cases created : s.up.clientCreated with
  | false => rfl
  | true =>
      have created' : (Session.effect config s a).up.clientCreated = true :=
        clientCreated_effect a created
      exact absurd none' (by simp [Session.system, created'])

/-- Without the host task, a supervisor whose client has never connected goes on so. -/
theorem beforeConnect_supervisorTask {u : Upstream.State} {outcome : Bool} {mtu : UInt16}
    (before : beforeConnect u.pc = true) (connectOk : u.connectOk = false) :
    beforeConnect (Upstream.supervisorTask u outcome mtu).pc = true ∧
      (Upstream.supervisorTask u outcome mtu).connectOk = false := by
  unfold Upstream.supervisorTask
  cases pc : u.pc with
  | session pos target =>
      rw [pc] at before
      cases pos with
      | createClient =>
          simp only [Upstream.trySession]
          split <;> exact ⟨rfl, connectOk⟩
      | storeConnecting | hangUp => exact ⟨rfl, connectOk⟩
      | drainConnectSem phase =>
          cases phase with
          | first => exact ⟨rfl, connectOk⟩
          | steady => cases before
      | clearConnectOk phase =>
          cases phase with
          | first => exact ⟨rfl, rfl⟩
          | steady => cases before
      | connect phase | awaitConnect phase =>
          cases phase with
          | first => cases outcome <;> exact ⟨rfl, connectOk⟩
          | steady => cases before
      | loadConnectOk phase =>
          simp only [Upstream.trySession, connectOk]
          exact ⟨rfl, connectOk⟩
      | _ => cases before
  | snapshot | loadState target =>
      simp only
      split <;> exact ⟨rfl, connectOk⟩
  | storeDisabled | storeAddress target | storeScanning target | backoff | pump =>
      exact ⟨rfl, connectOk⟩

theorem Early.step (early : Early s) {a : Session.Action} (guard : Session.Guard config s a)
    (noHost : ofCloneHost a = false) : Early (Session.effect config s a) := by
  cases a with
  | upstream a answers =>
      cases a with
      | supervisor outcome mtu =>
          obtain ⟨pc, connectOk⟩ := beforeConnect_supervisorTask early.pc early.connectOk
          exact ⟨pc, connectOk, early.queue⟩
      | configure target => exact ⟨early.pc, early.connectOk, early.queue⟩
      | _ => cases noHost
  | drainWrite request rest =>
      have queued := guard.1
      rw [early.queue] at queued
      cases queued
  | _ => cases noHost

/-! ## What the clone calls after the power-off -/

/-- Before anything has connected only the client is called. -/
theorem Early.uses (early : Early s) {a : Session.Action} (guard : Session.Guard config s a)
    (noHost : ofCloneHost a = false) : ∀ o ∈ cloneUses config s a, o = .cloneClient := by
  cases a with
  | upstream a answers =>
      cases a with
      | supervisor outcome mtu =>
          have before := early.pc
          simp only [cloneUses, supervisorUses]
          cases pc : s.up.pc with
          | session pos target =>
              rw [pc] at before
              cases pos with
              | createClient | storeConnecting | drainConnectSem phase | clearConnectOk phase
              | awaitConnect phase => exact nofun
              | connect phase | hangUp => simp
              | loadConnectOk phase => simp [early.connectOk]
              | _ => cases before
          | _ => exact nofun
      | configure target => exact nofun
      | _ => cases noHost
  | drainWrite request rest => simp [cloneUses]
  | _ => cases noHost

/-- Only `build_from` creates the server, and it reads the client's table for it. -/
theorem server_of_effect {a : Session.Action} (noHost : ofCloneHost a = false)
    (calls : cloneUses config s a = []) (server : (Session.effect config s a).mirror.server = true) :
    s.mirror.server = true := by
  cases a with
  | upstream a answers =>
      cases a with
      | supervisor outcome mtu =>
          have after : (Session.mirrorCall config s outcome answers).1.server = true := server
          unfold Session.mirrorCall at after
          cases pc : s.up.pc with
          | session pos target =>
              rw [pc] at after
              cases pos with
              | buildFrom => simp [cloneUses, supervisorUses, pc] at calls
              | dropMirror =>
                  simp only [Mirror.disconnectUpstream] at after
                  split at after <;> exact after
              | finalizeServer =>
                  rcases Mirror.finalizeServer_spec config s.mirror answers.started with
                    same | ⟨activated, registered, built⟩
                  · simpa [same] using after
                  · simpa [built] using after
              | rebind =>
                  simp only [Mirror.rebindUpstream] at after
                  split at after <;> exact after
              | _ => exact after
          | _ =>
              rw [pc] at after
              exact after
      | configure target => exact server
      | _ => cases noHost
  | drainWrite request rest => exact server
  | _ => cases noHost

/-- `finalize_server` calls only what was there at the power-off. -/
theorem deleted_of_finalizeUses {gone : Gone} {m : Mirror.State} {outcome : Bool}
    (server : m.server = true → gone.server = true) :
    ∀ o ∈ finalizeUses config m outcome, gone.deleted o = true := by
  have rows : m.server = true → ∀ o ∈ rowUses m, gone.deleted o = true := by
    intro there o used
    unfold rowUses at used
    split at used
    · cases used
    · rw [List.mem_singleton.mp used]
      exact server there
  intro o used
  unfold finalizeUses at used
  rcases List.mem_append.mp used with used | used
  · cases there : m.server with
    | false => simp [there] at used
    | true =>
        have rows := rows there o
        have server : gone.deleted .server = true := server there
        have scan : gone.deleted .scan = true := rfl
        split at used
        · cases used
        · split at used
          · rcases List.mem_append.mp used with used | used
            · split at used
              · cases used
              · rcases List.mem_pair.mp used with rfl | rfl <;> assumption
            · exact rows used
          · rcases List.mem_cons.mp used with rfl | used
            · exact server
            · split at used
              · exact rows used
              · cases used
  · split at used
    · cases used
    · rw [List.mem_singleton.mp used]
      rfl

/-- A clone whose client is deleted calls a deleted object wherever it calls one. -/
theorem deleted_of_cloneUses {gone : Gone} {a : Session.Action} (client : gone.cloneClient = true)
    (server : s.mirror.server = true → gone.server = true) (noHost : ofCloneHost a = false)
    (calls : cloneUses config s a ≠ []) : ∃ o ∈ cloneUses config s a, gone.deleted o = true := by
  have first (o : Object) (rest : List Object) (bad : gone.deleted o = true) :
      ∃ o' ∈ o :: rest, gone.deleted o' = true := ⟨o, List.mem_cons_self, bad⟩
  have guarded {p : Prop} [Decidable p] (o : Object) (rest : List Object)
      (bad : gone.deleted o = true) (calls : (if p then o :: rest else []) ≠ []) :
      ∃ o' ∈ if p then o :: rest else [], gone.deleted o' = true := by
    by_cases holds : p
    · rw [if_pos holds]
      exact first o rest bad
    · exact absurd (if_neg holds) calls
  have unlessGuarded {p : Prop} [Decidable p] (o : Object) (rest : List Object)
      (bad : gone.deleted o = true) (calls : (if p then [] else o :: rest) ≠ []) :
      ∃ o' ∈ if p then [] else o :: rest, gone.deleted o' = true := by
    by_cases holds : p
    · exact absurd (if_pos holds) calls
    · rw [if_neg holds]
      exact first o rest bad
  cases a with
  | upstream a answers =>
      cases a with
      | supervisor outcome mtu =>
          simp only [cloneUses, supervisorUses] at calls ⊢
          cases pc : s.up.pc with
          | session pos target =>
              simp only [pc] at calls ⊢
              cases pos with
              | connect phase | discover phase | clientDisconnect | hangUp | buildFrom =>
                  exact first _ _ client
              | drainDisconnectSem => exact first _ _ rfl
              | finalizeServer =>
                  obtain ⟨o, used⟩ := List.exists_mem_of_ne_nil _ calls
                  exact ⟨o, used, deleted_of_finalizeUses server o used⟩
              | loadConnectOk phase | rebind | prime | subscribe => exact guarded _ _ client calls
              | awaitDisconnect => exact unlessGuarded _ _ rfl calls
              | advertise => exact unlessGuarded _ _ client calls
              | _ => exact absurd rfl calls
          | _ =>
              rw [pc] at calls
              exact absurd rfl calls
      | configure target => exact absurd rfl calls
      | _ => cases noHost
  | drainWrite request rest => exact first _ _ client
  | _ => cases noHost

end Clone

/-! ## What stays -/

/-- The scan object is not given up, and a power-off is not undone. -/
def Keeps (r r' : Radio) : Prop :=
  r'.scan = r.scan ∧ (r.poweredOff = true → r'.poweredOff = true)

namespace Keeps

variable {r r' r'' : Radio}

theorem refl (r : Radio) : Keeps r r := ⟨rfl, id⟩

theorem trans (first : Keeps r r') (second : Keeps r' r'') : Keeps r r'' :=
  ⟨second.1.trans first.1, fun off => second.2 (first.2 off)⟩

theorem pause (r : Radio) : Keeps r r.pause := by
  rw [Radio.pause_eq]
  exact ⟨rfl, id⟩

theorem resume (r : Radio) (ok : Bool) : Keeps r (r.resume ok) := by
  rw [Radio.resume_eq]
  exact ⟨rfl, id⟩

theorem setAdvertisingEnabled (r : Radio) (on ok : Bool) : Keeps r (r.setAdvertisingEnabled on ok) := by
  obtain ⟨_, done⟩ := Radio.setAdvertisingEnabled_eq (r := r) on ok
  rw [done]
  exact ⟨rfl, id⟩

theorem setAdvertisingAutoSuspend (r : Radio) (suspend ok : Bool) :
    Keeps r (r.setAdvertisingAutoSuspend suspend ok) := by
  rw [Radio.setAdvertisingAutoSuspend, Radio.applyAdvState_eq]
  exact ⟨rfl, id⟩

theorem setAdvIntervalMs (r : Radio) (ms : UInt16) (ok : Bool) : Keeps r (r.setAdvIntervalMs ms ok) := by
  obtain ⟨_, done⟩ := Radio.setAdvIntervalMs_eq (r := r) ms ok
  rw [done]
  exact ⟨rfl, id⟩

theorem restartScan (r : Radio) (ok : Bool) : Keeps r (r.restartScan ok) := by
  obtain ⟨_, done⟩ := Radio.restartScan_eq (r := r) ok
  rw [done]
  exact ⟨rfl, id⟩

theorem setDuty (r : Radio) (windowMs intervalMs : UInt16) (ok : Bool) :
    Keeps r (r.setDuty windowMs intervalMs ok) := by
  unfold Radio.setDuty
  split
  · exact refl r
  · exact restartScan { r with windowMs, intervalMs } ok

theorem setActive (r : Radio) (on ok : Bool) : Keeps r (r.setActive on ok) := by
  unfold Radio.setActive
  split
  · exact refl r
  · exact restartScan { r with activeScan := on } ok

theorem powerOff (r : Radio) : Keeps r r.powerOff := by
  unfold Radio.powerOff
  split
  · exact refl r
  · exact ⟨rfl, fun _ => rfl⟩

/-- Whatever is posted. -/
theorem handle (d : Settings.Device) (post : Settings.Post) (answers : Settings.Answers) :
    Keeps d.ram.radio (Settings.handle d post answers).1.ram.radio := by
  have invariant : Settings.RadioInvariant (Keeps d.ram.radio) :=
    ⟨fun r on ok start => start.trans (setAdvertisingEnabled r on ok),
      fun r ms ok start => start.trans (setAdvIntervalMs r ms ok),
      fun r windowMs intervalMs ok start => start.trans (setDuty r windowMs intervalMs ok),
      fun r on ok start => start.trans (setActive r on ok),
      fun r start => start.trans (powerOff r)⟩
  exact invariant.handle (refl d.ram.radio)

end Keeps

theorem keeps_boot (nvs : Settings.Nvs) (scanStart advStart : Bool) :
    Keeps (({} : Radio).start scanStart) (Settings.boot nvs scanStart advStart).ram.radio := by
  have before : (Settings.applyWifiPsFromNvs nvs (Settings.applyCpuFreqFromNvs nvs
      (Settings.applyLogOverridesFromNvs nvs {}))).radio = {} := by
    unfold Settings.applyWifiPsFromNvs Settings.applyCpuFreqFromNvs
    dsimp only
    repeat' split
    all_goals rfl
  have advertising (ram : Settings.Ram) :
      Keeps ram.radio (Settings.applyAdvIntervalFromNvs nvs advStart ram).radio := by
    unfold Settings.applyAdvIntervalFromNvs
    dsimp only
    split
    · exact (Keeps.setAdvIntervalMs _ _ _).trans (Keeps.setAdvertisingEnabled _ _ _)
    · exact Keeps.setAdvIntervalMs _ _ _
  have duty (r : Radio) : Keeps r (Settings.loadDuty nvs scanStart r) := by
    unfold Settings.loadDuty
    split
    · exact Keeps.setDuty _ _ _ _
    · exact Keeps.refl r
  have active (r : Radio) : Keeps r (Settings.loadActive nvs scanStart r) := by
    unfold Settings.loadActive
    split
    · exact Keeps.setActive _ _ _
    · exact Keeps.refl r
  have adv := advertising
    { Settings.applyWifiPsFromNvs nvs (Settings.applyCpuFreqFromNvs nvs
        (Settings.applyLogOverridesFromNvs nvs {})) with radio := ({} : Radio).start scanStart }
  have all := adv.trans ((duty _).trans (active _))
  simpa [Settings.boot, Settings.applyScanFromNvs, Settings.applyTxPowerFromNvs, before] using all

section Steps

variable {config : Mirror.Config} {s : State} {a : Action}

theorem Keeps.apply (config : Mirror.Config) (s : State) (a : Action) :
    Keeps s.radio (apply config s a).radio := by
  cases a with
  | post post answers =>
      have kept := Keeps.handle s.device post answers
      simp only [PowerOff.apply]
      split <;> exact kept
  | trace on ok =>
      cases on with
      | true => exact Keeps.pause s.radio
      | false => exact Keeps.resume s.radio ok
  | tick order ok =>
      cases order with
      | nothing => exact Keeps.refl s.radio
      | quiesce => exact Keeps.pause s.radio
      | restore => exact Keeps.resume s.radio ok
  | quiesceForOta =>
      exact (Keeps.pause { s.radio with otaQuiesce := true }).trans
        (Keeps.setAdvertisingAutoSuspend _ true true)
  | resumeAfterOta scanOk advOk =>
      exact (Keeps.resume { s.radio with otaQuiesce := false } scanOk).trans
        (Keeps.setAdvertisingAutoSuspend _ false advOk)
  | backend a | clone a => exact Keeps.refl s.radio
  | gattRequest address => exact Keeps.refl s.radio

/-- What the runs without an error keep. -/
structure Kept (config : Mirror.Config) (s : State) : Prop where
  scan : s.radio.scan = true
  off : s.gone.isSome = true → s.radio.poweredOff = true
  clone : (Session.system config).Reachable s.clone
  early : ∀ gone ∈ s.gone, gone.cloneClient = false → Early s.clone
  server : ∀ gone ∈ s.gone, gone.cloneClient = true → s.clone.mirror.server = true →
    gone.server = true

theorem Kept.init (config : Mirror.Config) (nvs : Settings.Nvs) (scanStart advStart : Bool) :
    Kept config (system config nvs scanStart advStart).init where
  scan := (keeps_boot nvs scanStart advStart).1.trans (by cases scanStart <;> rfl)
  off := nofun
  clone := .refl
  early := nofun
  server := nofun

/-- The three kinds of steps: of the clone, of the others, and the one that powers off. -/
theorem effect_cases (config : Mirror.Config) (s : State) (a : Action) :
    (∃ b, a = .clone b) ∨
    ((effect config s a).clone = s.clone ∧ (effect config s a).gone = s.gone) ∨
    ((effect config s a).clone = s.clone ∧ (effect config s a).radio.poweredOff = true ∧
      ∃ gone, (effect config s a).gone = some gone ∧ gone.cloneClient = s.clone.up.clientCreated ∧
        (s.clone.mirror.server = true → gone.server = true)) := by
  cases a with
  | clone b => exact .inl ⟨b, rfl⟩
  | post post answers =>
      right
      cases off : powersOff s post answers with
      | false =>
          left
          simp only [PowerOff.effect, PowerOff.apply, off]
          exact ⟨rfl, rfl⟩
      | true =>
          right
          simp only [PowerOff.effect, PowerOff.apply, off]
          obtain ⟨now, _⟩ := Bool.and_eq_true_iff.mp off
          exact ⟨rfl, now, _, rfl, rfl, fun server => by simp [server]⟩
  | trace on ok => cases on <;> exact .inr (.inl ⟨rfl, rfl⟩)
  | _ => exact .inr (.inl ⟨rfl, rfl⟩)

/-- A spared step keeps it. -/
theorem Kept.effect (kept : Kept config s) (guard : Guard config s a) (spared : Spared config s a) :
    Kept config (effect config s a) := by
  obtain ⟨scan, off⟩ := Keeps.apply config s a
  replace scan := scan.trans kept.scan
  rcases effect_cases config s a with ⟨b, rfl⟩ | ⟨clone, gone⟩ | ⟨clone, now, gone', is, client', known⟩
  · have noHost {gone : Gone} (there : gone ∈ s.gone) : ofCloneHost b = false :=
      guard.2 (Option.isSome_of_mem there)
    refine ⟨scan, fun after => off (kept.off after), kept.clone.step b guard.1, ?_, ?_⟩
    · intro gone there noClient
      exact (kept.early gone there noClient).step guard.1 (noHost there)
    · intro gone there client server
      exact kept.server gone there client
        (server_of_effect (noHost there) (spared gone there client) server)
  · refine ⟨scan, fun after => off (kept.off (gone ▸ after)), clone ▸ kept.clone, ?_, ?_⟩
    · rw [gone, clone]
      exact kept.early
    · rw [gone, clone]
      exact kept.server
  · refine ⟨scan, fun _ => now, clone ▸ kept.clone, ?_, ?_⟩
    · intro gone after noClient
      obtain rfl : gone' = gone := Option.some.inj (is.symm.trans after)
      rw [clone]
      exact (untried kept.clone (client'.symm.trans noClient)).early
    · intro gone after client server
      obtain rfl : gone' = gone := Option.some.inj (is.symm.trans after)
      rw [clone] at server
      exact known server

/-- One step calls nothing that is deleted exactly if it is spared. -/
theorem Kept.unused_iff (kept : Kept config s) (guard : Guard config s a) :
    (uses config s a).any s.deleted = false ↔ Spared config s a := by
  cases deinit : s.gone with
  | none =>
      have alive : s.deleted = fun _ => false := by
        funext o
        simp [State.deleted, deinit]
      simp [alive, Spared, deinit]
  | some gone =>
      have deleted : s.deleted = gone.deleted := by
        funext o
        simp [State.deleted, deinit]
      have there : gone ∈ s.gone := deinit
      have scanned : scanUses s = [.scan] := if_pos kept.scan
      have spared : Spared config s a ↔ SparedAfter config s gone a := by simp [Spared, deinit]
      rw [deleted, spared]
      cases a with
      | post post answers =>
          cases post with
          | scan query =>
              simp only [uses, postUses, SparedAfter, rejects, scanned]
              split <;> simp [Gone.deleted]
          | _ => simp [uses, postUses, SparedAfter]
      | trace on ok | quiesceForOta | resumeAfterOta scanOk advOk =>
          simp [uses, scanned, SparedAfter, Gone.deleted]
      | backend b =>
          have noHost := guard.2 (Option.isSome_of_mem there)
          cases b with
          | connectIssue i f ok => simp [uses, backendUses, SparedAfter, Gone.deleted]
          | disconnectCall i c => simp [uses, backendUses, SparedAfter, Gone.deleted]
          | onConnect | hostResume => cases noHost
          | _ => simp [uses, backendUses, SparedAfter]
      | gattRequest address => simp [uses, SparedAfter, Gone.deleted]
      | tick order ok =>
          have nothing : order = .nothing := guard (by simp [kept.off (Option.isSome_of_mem there)])
          simp [uses, nothing, SparedAfter]
      | clone b =>
          have noHost := guard.2 (Option.isSome_of_mem there)
          simp only [uses, SparedAfter]
          cases client : gone.cloneClient with
          | false =>
              have only := (kept.early gone there client).uses guard.1 noHost
              simpa [Gone.deleted] using fun o used => by rw [only o used]; exact client
          | true =>
              constructor
              · intro unused _
                by_contra calls
                obtain ⟨o, used, bad⟩ :=
                  deleted_of_cloneUses client (kept.server gone there client) noHost calls
                exact List.any_eq_false.mp unused o used bad
              · intro none
                rw [none rfl]
                rfl

end Steps

/-! ## The result -/

theorem Kept.exact {config : Mirror.Config} {s : State} {a : Action} (kept : Kept config s)
    (fine : s.error = false) (guard : Guard config s a) :
    (PowerOff.effect config s a).error = false ↔ Spared config s a := by
  rw [← kept.unused_iff guard]
  simp [PowerOff.effect, fine]

/-- **Who calls a deleted object.** After the power-off none is called if and only if every step is
spared: a run reaches the error exactly with the first accepted /scan, /trace or OTA hook, the first
use of a client from before, or the first call of a clone that had a client. -/
theorem no_use_after_deinit (config : Mirror.Config) (nvs : Settings.Nvs) (scanStart advStart : Bool)
    (acts : List Action) (t : State)
    (ran : (system config nvs scanStart advStart).run always
      (system config nvs scanStart advStart).init acts = some t) :
    t.error = false ↔
      (system config nvs scanStart advStart).run (Spared config)
        (system config nvs scanStart advStart).init acts = some t := by
  have lost (s : State) (a : Action) (bad : ¬ s.error = false) :
      ¬ (effect config s a).error = false := by
    simp_all [effect]
  exact run_keeps_iff (K := Kept config) (P := fun s => s.error = false) lost
    (fun s a kept _ guard spared => kept.effect guard spared)
    (fun s a kept fine guard => kept.exact fine guard)
    (Kept.init config nvs scanStart advStart) rfl ran

def posting (post : Settings.Query → Settings.Post) (pairs : List (String × String)) : Action :=
  .post (post fun key => pairs.lookup key) {}

/-- BLE is powered off from the dashboard while the clone still waits for its target: a /scan that is
refused, a setting that calls no kept object, a round of the supervisor, and the clone makes its
client and gives up. -/
def earlySchedule : List Action :=
  ([.clone (Session.link (.configure ⟨true, 7, 0⟩)), .tick .quiesce true,
    posting .txpower [("ble", "off")], posting .scan [("window", "5")],
    posting .advitvl [("ms", "100")], .tick .nothing true] : List Action) ++
    (Session.steps 8).map .clone ++ ([.clone (Session.link (.supervisor false 0))] : List Action)

theorem no_use_after_deinit_early :
    let sys := system Session.smallConfig (fun _ => none) true true
    ∃ t, sys.run always sys.init earlySchedule = some t ∧ t.gone.isSome = true ∧
      sys.run (Spared Session.smallConfig) sys.init earlySchedule = some t := by
  intro sys
  have all : (sys.run always sys.init earlySchedule).map (fun t => (t.error, t.gone.isSome)) =
      some (false, true) := by
    decide +kernel
  obtain ⟨t, ran, seen⟩ := Option.map_eq_some_iff.mp all
  obtain ⟨fine, deinit⟩ := Prod.mk.inj seen
  exact ⟨t, ran, deinit, (no_use_after_deinit _ _ _ _ _ t ran).mp fine⟩

/-- Two requests from the dashboard: BLE off, and then a duty cycle. -/
theorem scan_set_after_power_off :
    let sys := system Session.smallConfig (fun _ => none) true true
    (sys.run always sys.init [posting .txpower [("ble", "off")]]).map
        (fun t => (t.gone.isSome, t.error)) = some (true, false) ∧
      (sys.run always sys.init
        [posting .txpower [("ble", "off")], posting .scan [("interval", "100")]]).map State.error =
        some true := by
  decide +kernel

end NimbleProxy.Backend.PowerOff
