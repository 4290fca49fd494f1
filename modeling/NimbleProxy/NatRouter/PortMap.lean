/-
# NatRouter.PortMap -- port forwarding rules and the mappings that are live in lwIP

`nat_router.cpp`. The table `g_portmap` has the rules, NVS a copy of it, and lwIP the
mappings. A rule is live if the SoftAP is up and the address of the station is known;
the mappings follow the table when the SoftAP goes up or down, when the address changes
and when a rule is added or deleted.

Adding a rule looks at the address and not at the SoftAP. A rule that is added while the
SoftAP is off becomes live at once (`added_while_off`), and stays so until the SoftAP is
switched on. `AddsWhileUp` is that no rule is added then.

What lwIP has is a store from protocol and port to the mapping, `ip_portmap_add` a put
and `ip_portmap_remove` an erase. A query is what `httpd_query_key_value` answers for a
key. Whether NVS takes a write is an argument. The SoftAP's credentials are checked and
not kept, and the radio, DNS, DHCP and NAPT are left out.
-/
import NimbleProxy.Theory.ActionSystem
import NimbleProxy.Api.Settings
import NimbleProxy.NatRouter.PortTable

namespace NimbleProxy.NatRouter.PortMap

open NimbleProxy.Theory ActionSystem KeyValue PortTable
open NimbleProxy.Api.Settings (Query atoi)

set_option autoImplicit false

/-! ## The router -/

structure State where
  /-- `g_portmap` -/
  table : Table
  /-- `g_sta_ip`, 0 as long as it is not known -/
  staIp : UInt32 := 0
  /-- `g_enabled` -/
  enabled : Bool := true
  /-- `g_ota_resume_ap` -/
  otaResumeAp : Bool := false
  /-- `start` has run and the endpoints and the event handler are registered -/
  started : Bool := false
  /-- the mappings of lwIP -/
  live : Store Key Mapping := fun _ => none
  /-- `NVS_PORTMAP` -/
  storedTable : Option Table
  /-- `NVS_ENABLED` -/
  storedEnabled : Option UInt8

variable (s : State)

def removeAllLive : State := { s with live := s.live.eraseAll s.table.keys }

def applyPortmap : State :=
  if s.staIp = 0 then s else { s with live := s.live.putAll (s.table.mappings s.staIp) }

@[simp] theorem applyPortmap_table : (applyPortmap s).table = s.table := by
  unfold applyPortmap
  split <;> rfl

@[simp] theorem applyPortmap_staIp : (applyPortmap s).staIp = s.staIp := by
  unfold applyPortmap
  split <;> rfl

@[simp] theorem applyPortmap_enabled : (applyPortmap s).enabled = s.enabled := by
  unfold applyPortmap
  split <;> rfl

@[simp] theorem applyPortmap_started : (applyPortmap s).started = s.started := by
  unfold applyPortmap
  split <;> rfl

def apUp : State := { applyPortmap s with enabled := true }

def apDown : State := { removeAllLive s with enabled := false }

def onStaGotIp (newIp : UInt32) : State :=
  let changed := newIp != s.staIp
  let s := { s with staIp := newIp }
  if !s.enabled then s
  else if !changed then s
  else applyPortmap (removeAllLive s)

def pauseForOta : State :=
  let s := { s with otaResumeAp := s.enabled }
  if s.enabled then apDown s else s

def resumeAfterOta : State :=
  let s := if s.otaResumeAp then apUp s else s
  { s with otaResumeAp := false }

/-- `load_portmap`; a blob of another size is ignored. -/
def loadPortmap (portmapMax : Nat) : Table :=
  match s.storedTable with
  | none => .zero portmapMax
  | some stored => if stored.entries.length = portmapMax then stored else .zero portmapMax

/-- `start`; `ip` is what `esp_netif_get_ip_info` answers. -/
def start (portmapMax : Nat) (ip : Option UInt32) : State :=
  let s := { s with
    table := loadPortmap s portmapMax
    enabled := s.storedEnabled.getD 1 != 0
    staIp := ip.getD s.staIp
    started := true }
  if s.enabled then apUp s else s

/-- A reset leaves what is in NVS. -/
def reboot (portmapMax : Nat) : State :=
  { table := .zero portmapMax, storedTable := s.storedTable, storedEnabled := s.storedEnabled }

/-! ## Requests -/

/-- `text[0] == '1'`. -/
def isOne (text : String) : Bool := text.toList.head? == some '1'

def natPost (query : Option Query) (saved : Bool) : State × Option String :=
  match query with
  | none => (s, some "missing query")
  | some query =>
      if query "enabled" = none ∧ query "ssid" = none ∧ query "psk" = none then
        (s, some "need enabled=, ssid= or psk=")
      else if (query "ssid").any fun ssid => ssid.utf8ByteSize < 1 || 32 < ssid.utf8ByteSize then
        (s, some "ssid must be 1..32 chars")
      else if (query "psk").any fun psk =>
          psk.utf8ByteSize != 0 && (psk.utf8ByteSize < 8 || 63 < psk.utf8ByteSize) then
        (s, some "psk must be empty or 8..63 chars")
      else
        match query "enabled" with
        | none => (s, none)
        | some en =>
            let want := isOne en
            if want = s.enabled then (s, none)
            else
              let s := if want then apUp s else apDown s
              ({ s with
                storedEnabled := if saved then some (if want then 1 else 0) else s.storedEnabled },
                none)

/-- What POST /portmap asks for. -/
inductive Request
  | delete (key : Key)
  | add (rule : PortmapEntry)

def readProto (query : Query) : Except String UInt8 :=
  match query "proto" with
  | none => .error "missing proto"
  | some "tcp" => .ok protoTcp
  | some "udp" => .ok protoUdp
  | some _ => .error "proto=tcp|udp"

/-- `mport` and `dport`. -/
def readPort (query : Query) (name : String) : Except String UInt16 :=
  match query name with
  | none => .error ("missing " ++ name)
  | some text =>
      let port := atoi text
      if port < 1 ∨ 65535 < port then .error (name ++ " out of range")
      else .ok (UInt16.ofNat port.toNat)

/-- `aton` is `ip4addr_aton` of lwIP. -/
def readDaddr (aton : String → Option UInt32) (query : Query) : Except String UInt32 :=
  match query "daddr" with
  | none => .error "missing daddr"
  | some text =>
      match aton text with
      | none => .error "bad daddr"
      | some daddr => .ok daddr

/-- The first part of `portmap_post`. -/
def readRequest (aton : String → Option UInt32) (query : Query) : Except String Request := do
  let proto ← readProto query
  let mport ← readPort query "mport"
  if (query "del").any isOne then
    return .delete (proto, mport)
  let daddr ← readDaddr aton query
  let dport ← readPort query "dport"
  return .add { proto, valid := true, mport, dport, daddr }

def savePortmap (saved : Bool) : State :=
  if saved then { s with storedTable := some s.table } else s

@[simp] theorem savePortmap_table (saved : Bool) : (savePortmap s saved).table = s.table := by
  cases saved <;> rfl

@[simp] theorem savePortmap_staIp (saved : Bool) : (savePortmap s saved).staIp = s.staIp := by
  cases saved <;> rfl

@[simp] theorem savePortmap_enabled (saved : Bool) :
    (savePortmap s saved).enabled = s.enabled := by
  cases saved <;> rfl

@[simp] theorem savePortmap_started (saved : Bool) :
    (savePortmap s saved).started = s.started := by
  cases saved <;> rfl

@[simp] theorem savePortmap_live (saved : Bool) : (savePortmap s saved).live = s.live := by
  cases saved <;> rfl

def deleteRule (key : Key) (saved : Bool) : State :=
  match s.table.find key with
  | none => s
  | some i =>
      let s := savePortmap { s with table := s.table.invalidate i } saved
      { s with live := s.live.erase key }

def addRule (rule : PortmapEntry) (saved : Bool) : State × Option String :=
  match found : s.table.slot rule.key with
  | none => (s, some "portmap table full")
  | some i =>
      let s := savePortmap { s with table := s.table.put rule i found } saved
      let s :=
        if s.staIp = 0 then s else { s with live := s.live.put rule.key (rule.mapping s.staIp) }
      (s, none)

def portmapPost (aton : String → Option UInt32) (query : Option Query) (saved : Bool) :
    State × Option String :=
  match query with
  | none => (s, some "missing query")
  | some query =>
      match readRequest aton query with
      | .error text => (s, some text)
      | .ok (.delete key) => (deleteRule s key saved, none)
      | .ok (.add rule) => addRule s rule saved

/-! ## The system -/

inductive Action
  | reboot
  | start (ip : Option UInt32)
  | natPost (query : Option Query) (saved : Bool)
  | portmapPost (query : Option Query) (saved : Bool)
  | staGotIp (ip : UInt32)
  | pauseForOta
  | resumeAfterOta

/-- `start` runs once after a reset, and before it there are no endpoints. The hooks of the
upload are there earlier. -/
def Guard : Action → Prop
  | .start _ => s.started = false
  | .natPost .. | .portmapPost .. | .staGotIp _ => s.started = true
  | .reboot | .pauseForOta | .resumeAfterOta => True

instance : (a : Action) → Decidable (Guard s a)
  | .start _ => inferInstanceAs (Decidable (_ = _))
  | .natPost .. | .portmapPost .. | .staGotIp _ => inferInstanceAs (Decidable (_ = _))
  | .reboot | .pauseForOta | .resumeAfterOta => isTrue trivial

def effect (portmapMax : Nat) (aton : String → Option UInt32) : Action → State
  | .reboot => reboot s portmapMax
  | .start ip => start s portmapMax ip
  | .natPost query saved => (natPost s query saved).1
  | .portmapPost query saved => (portmapPost s aton query saved).1
  | .staGotIp ip => onStaGotIp s ip
  | .pauseForOta => pauseForOta s
  | .resumeAfterOta => resumeAfterOta s

/-- From a reset on, with any contents of NVS. -/
def system (portmapMax : Nat) (aton : String → Option UInt32) (storedTable : Option Table)
    (storedEnabled : Option UInt8) : ActionSystem State Action where
  init := { table := .zero portmapMax, storedTable, storedEnabled }
  Guard := Guard
  guardDecidable := inferInstance
  effect := fun s => effect s portmapMax aton

/-- While the SoftAP is up and the address known, exactly the rules are live. -/
def Exact : Prop :=
  s.enabled = true → s.staIp ≠ 0 → Mirrors s.live (s.table.mappings s.staIp)

/-- While the SoftAP is off, nothing is live. -/
def Dead : Prop :=
  s.enabled = false → ∀ key, s.live key = none

/-- The request is one that adds a rule. -/
def Adds (aton : String → Option UInt32) (query : Option Query) : Prop :=
  ∃ q ∈ query, ∃ rule, readRequest aton q = .ok (.add rule) ∧ s.table.slot rule.key ≠ none

/-- `Adds`, computed. -/
def adds (aton : String → Option UInt32) (query : Option Query) : Bool :=
  match query.map (readRequest aton) with
  | some (.ok (.add rule)) => (s.table.slot rule.key).isSome
  | _ => false

theorem adds_iff (aton : String → Option UInt32) (query : Option Query) :
    adds s aton query = true ↔ Adds s aton query := by
  unfold adds Adds
  cases query with
  | none => simp
  | some query =>
      cases read : readRequest aton query with
      | error text => simp [read]
      | ok request =>
          cases request <;> simp [read, Option.isSome_iff_ne_none]

instance (aton : String → Option UInt32) (query : Option Query) : Decidable (Adds s aton query) :=
  decidable_of_iff _ (adds_iff s aton query)

/-- No rule is added while the SoftAP is off and the address known. -/
def AddsWhileUp (aton : String → Option UInt32) : Action → Prop
  | .portmapPost query _ => Adds s aton query → s.enabled = true ∨ s.staIp = 0
  | _ => True

instance (aton : String → Option UInt32) : (a : Action) → Decidable (AddsWhileUp s aton a)
  | .portmapPost .. => inferInstanceAs (Decidable (_ → _))
  | .reboot | .start _ | .natPost .. | .staGotIp _ | .pauseForOta | .resumeAfterOta => isTrue trivial

/-! ## What the operations do to the mappings -/

section Operations

variable {s : State} {key : Key}

/-- In every run: lwIP has no mapping without a rule, and before `start` none at all. -/
structure Tracks (s : State) : Prop where
  within : Within s.live s.table.keys
  exact : Exact s
  fresh : s.started = false → s.staIp = 0 ∧ ∀ key, s.live key = none

theorem within_of_dead (dead : ∀ key, s.live key = none) : Within s.live s.table.keys :=
  fun key present => absurd (dead key) present

theorem removeAllLive_dead (within : Within s.live s.table.keys) (key : Key) :
    (removeAllLive s).live key = none :=
  within.eraseAll key

theorem tracks_applyPortmap (within : Within s.live s.table.keys)
    (fresh : s.started = false → s.staIp = 0 ∧ ∀ key, s.live key = none) :
    Tracks (applyPortmap s) := by
  by_cases known : s.staIp = 0
  · rw [applyPortmap, if_pos known]
    exact ⟨within, fun _ other => absurd known other, fresh⟩
  · have mirrors : Mirrors (applyPortmap s).live (s.table.mappings s.staIp) := by
      rw [← Table.map_fst_mappings s.staIp] at within
      rw [applyPortmap, if_neg known]
      exact within.mirrors_putAll (Table.functional_mappings s.staIp)
    refine ⟨?_, fun _ _ => ?_, fun idle => ?_⟩
    · rw [applyPortmap_table, ← Table.map_fst_mappings s.staIp]
      exact mirrors.within
    · rw [applyPortmap_table, applyPortmap_staIp]
      exact mirrors
    · rw [applyPortmap_started] at idle
      exact absurd (fresh idle).1 known

theorem apUp_eq (s : State) : apUp s = applyPortmap { s with enabled := true } := by
  unfold apUp applyPortmap
  dsimp only
  split <;> rfl

theorem tracks_apUp (tracks : Tracks s) : Tracks (apUp s) := by
  rw [apUp_eq]
  exact tracks_applyPortmap tracks.within tracks.fresh

theorem tracks_apDown (tracks : Tracks s) : Tracks (apDown s) := by
  have dead := removeAllLive_dead tracks.within
  exact ⟨within_of_dead (s := removeAllLive s) dead, nofun,
    fun idle => ⟨(tracks.fresh idle).1, dead⟩⟩

theorem tracks_onStaGotIp (tracks : Tracks s) (started : s.started = true) (newIp : UInt32) :
    Tracks (onStaGotIp s newIp) := by
  have running : s.started = false → newIp = 0 ∧ ∀ key, s.live key = none :=
    fun idle => absurd (idle.symm.trans started) nofun
  unfold onStaGotIp
  dsimp only
  split
  · rename_i off
    rw [Bool.not_eq_true'] at off
    exact ⟨tracks.within, fun on => absurd (off.symm.trans on) nofun, running⟩
  · split
    · rename_i unchanged
      have same : newIp = s.staIp := by simpa using unchanged
      subst same
      exact tracks
    · have dead := removeAllLive_dead (s := { s with staIp := newIp }) tracks.within
      refine tracks_applyPortmap (within_of_dead dead) fun idle => ?_
      exact absurd (idle.symm.trans started) nofun

/-! ### Rules -/

theorem tracks_deleteRule (tracks : Tracks s) (started : s.started = true) (saved : Bool) :
    Tracks (deleteRule s key saved) := by
  unfold deleteRule
  split
  · exact tracks
  · rename_i i found
    have rules (entry : PortmapEntry) :
        entry ∈ (s.table.invalidate i).rules ↔ entry.key ≠ key ∧ entry ∈ s.table.rules :=
      Table.mem_rules_invalidate found
    refine ⟨?_, ?_, ?_⟩
    · simp only [savePortmap_table, savePortmap_live]
      refine tracks.within.erase fun k mem other => ?_
      obtain ⟨entry, own, rfl⟩ := Table.mem_keys.mp mem
      exact Table.mem_keys.mpr ⟨entry, (rules entry).mpr ⟨other, own⟩, rfl⟩
    · intro on known
      simp only [savePortmap_table, savePortmap_live, savePortmap_staIp,
        savePortmap_enabled] at on known ⊢
      refine (tracks.exact on known).erase fun k mapping => ?_
      simp only [Table.mem_mappings, rules]
      constructor
      · rintro ⟨entry, ⟨other, own⟩, rfl, same⟩
        exact ⟨other, entry, own, rfl, same⟩
      · rintro ⟨other, entry, own, rfl, same⟩
        exact ⟨entry, ⟨other, own⟩, rfl, same⟩
    · intro idle
      simp only [savePortmap_started] at idle
      exact absurd (idle.symm.trans started) nofun

theorem addRule_cases (s : State) (rule : PortmapEntry) (saved : Bool) :
    (s.table.slot rule.key = none ∧ addRule s rule saved = (s, some "portmap table full")) ∨
      ∃ i found, (addRule s rule saved).1.table = s.table.put rule i found ∧
        (addRule s rule saved).1.enabled = s.enabled ∧
        (addRule s rule saved).1.staIp = s.staIp ∧
        (addRule s rule saved).1.started = s.started ∧
        (addRule s rule saved).1.live =
          if s.staIp = 0 then s.live else s.live.put rule.key (rule.mapping s.staIp) := by
  unfold addRule
  split
  · exact .inl ⟨‹_›, rfl⟩
  · rename_i i found
    refine .inr ⟨i, found, ?_⟩
    dsimp only
    by_cases known : s.staIp = 0
    · simp [known]
    · simp [known]

theorem tracks_addRule (tracks : Tracks s) (started : s.started = true) {rule : PortmapEntry}
    (valid : rule.valid = true) (saved : Bool) : Tracks (addRule s rule saved).1 := by
  rcases addRule_cases s rule saved with
    ⟨_, full⟩ | ⟨i, found, table, enabled, staIp, running, live⟩
  · rw [full]
    exact tracks
  · have rules (entry : PortmapEntry) : entry ∈ (s.table.put rule i found).rules ↔
        entry = rule ∨ (entry.key ≠ rule.key ∧ entry ∈ s.table.rules) :=
      Table.mem_rules_put found valid
    have own : rule.key ∈ (s.table.put rule i found).keys :=
      Table.mem_keys.mpr ⟨rule, (rules rule).mpr (.inl rfl), rfl⟩
    have kept : ∀ k ∈ s.table.keys, k ∈ (s.table.put rule i found).keys := by
      intro k mem
      obtain ⟨entry, known, rfl⟩ := Table.mem_keys.mp mem
      by_cases same : entry.key = rule.key
      · exact same ▸ own
      · exact Table.mem_keys.mpr ⟨entry, (rules entry).mpr (.inr ⟨same, known⟩), rfl⟩
    refine ⟨?_, fun on known => ?_, fun idle => ?_⟩
    · rw [table, live]
      split
      · exact fun k present => kept k (tracks.within k present)
      · exact tracks.within.put own kept _
    · rw [enabled] at on
      rw [staIp] at known
      rw [table, live, staIp, if_neg known]
      refine (tracks.exact on known).put fun k mapping => ?_
      simp only [Table.mem_mappings, rules]
      constructor
      · rintro ⟨entry, rfl | ⟨other, mem⟩, rfl, rfl⟩
        · exact .inl ⟨rfl, rfl⟩
        · exact .inr ⟨other, entry, mem, rfl, rfl⟩
      · rintro (⟨rfl, rfl⟩ | ⟨other, entry, mem, rfl, rfl⟩)
        · exact ⟨rule, .inl rfl, rfl, rfl⟩
        · exact ⟨entry, .inr ⟨other, mem⟩, rfl, rfl⟩
    · rw [running, started] at idle
      cases idle

/-- A rule that is asked for is a valid one. -/
theorem readRequest_add {aton : String → Option UInt32} {query : Query} {rule : PortmapEntry}
    (ok : readRequest aton query = .ok (.add rule)) : rule.valid = true := by
  unfold readRequest at ok
  cases proto : readProto query with
  | error text => simp [proto, bind, Except.bind] at ok
  | ok p =>
      cases mport : readPort query "mport" with
      | error text => simp [proto, mport, bind, Except.bind] at ok
      | ok m =>
          simp only [proto, mport, bind, Except.bind, pure, Except.pure] at ok
          split at ok
          · cases ok
          · cases daddr : readDaddr aton query with
            | error text => simp [daddr] at ok
            | ok a =>
                cases dport : readPort query "dport" with
                | error text => simp [daddr, dport] at ok
                | ok d =>
                    simp only [daddr, dport, Except.ok.injEq, Request.add.injEq] at ok
                    rw [← ok]

theorem natPost_cases (s : State) (query : Option Query) (saved : Bool) :
    (natPost s query saved).1 = s ∨
      ∃ storedEnabled,
        (natPost s query saved).1 = { apUp s with storedEnabled } ∨
          (natPost s query saved).1 = { apDown s with storedEnabled } := by
  unfold natPost
  split
  · exact .inl rfl
  · dsimp only
    split
    · exact .inl rfl
    · split
      · exact .inl rfl
      · split
        · exact .inl rfl
        · split
          · exact .inl rfl
          · rename_i en _
            split
            · exact .inl rfl
            · right
              cases isOne en
              · exact ⟨_, .inr rfl⟩
              · exact ⟨_, .inl rfl⟩

theorem portmapPost_cases (s : State) (aton : String → Option UInt32) (query : Option Query)
    (saved : Bool) :
    ((portmapPost s aton query saved).1 = s ∧ ¬ Adds s aton query) ∨
      (∃ key, (portmapPost s aton query saved).1 = deleteRule s key saved ∧
        ¬ Adds s aton query) ∨
      ∃ rule, rule.valid = true ∧ Adds s aton query ∧ s.table.slot rule.key ≠ none ∧
        (portmapPost s aton query saved).1 = (addRule s rule saved).1 := by
  unfold portmapPost Adds
  cases query with
  | none => simp
  | some query =>
      cases read : readRequest aton query with
      | error text => simp [read]
      | ok request =>
          cases request with
          | delete key => exact .inr (.inl ⟨key, by simp [read]⟩)
          | add rule =>
              cases room : s.table.slot rule.key with
              | none =>
                  rcases addRule_cases s rule saved with ⟨_, full⟩ | ⟨i, found, _⟩
                  · simp [read, full, room]
                  · rw [room] at found
                    cases found
              | some i =>
                  refine .inr (.inr ⟨rule, readRequest_add read, ?_, by simp [room], by simp only [read]⟩)
                  exact ⟨query, rfl, rule, read, by simp [room]⟩

end Operations

/-! ## Runs -/

section Runs

variable {portmapMax : Nat} {aton : String → Option UInt32} {storedTable : Option Table}
  {storedEnabled : Option UInt8} {s : State}

theorem tracks_step (tracks : Tracks s) (a : Action) (guard : Guard s a) :
    Tracks (effect s portmapMax aton a) := by
  cases a with
  | reboot =>
      exact ⟨within_of_dead fun _ => rfl, fun _ known => absurd rfl known,
        fun _ => ⟨rfl, fun _ => rfl⟩⟩
  | start ip =>
      have dead := (tracks.fresh guard).2
      simp only [effect, start]
      split
      · rw [apUp_eq]
        exact tracks_applyPortmap (within_of_dead dead) nofun
      · rename_i off
        exact ⟨within_of_dead dead, fun on => absurd on off, nofun⟩
  | natPost query saved =>
      simp only [effect]
      rcases natPost_cases s query saved with same | ⟨stored, enabled | disabled⟩
      · rw [same]
        exact tracks
      · rw [enabled]
        have up := tracks_apUp tracks
        exact ⟨up.within, up.exact, up.fresh⟩
      · rw [disabled]
        have down := tracks_apDown tracks
        exact ⟨down.within, down.exact, down.fresh⟩
  | portmapPost query saved =>
      simp only [effect]
      rcases portmapPost_cases s aton query saved with
        ⟨same, _⟩ | ⟨key, deleted, _⟩ | ⟨rule, valid, _, _, added⟩
      · rw [same]
        exact tracks
      · rw [deleted]
        exact tracks_deleteRule tracks guard saved
      · rw [added]
        exact tracks_addRule tracks guard valid saved
  | staGotIp ip => exact tracks_onStaGotIp tracks guard ip
  | pauseForOta =>
      simp only [effect, pauseForOta]
      split
      · exact tracks_apDown ⟨tracks.within, tracks.exact, tracks.fresh⟩
      · exact ⟨tracks.within, tracks.exact, tracks.fresh⟩
  | resumeAfterOta =>
      simp only [effect, resumeAfterOta]
      split
      · have up := tracks_apUp tracks
        exact ⟨up.within, up.exact, up.fresh⟩
      · exact ⟨tracks.within, tracks.exact, tracks.fresh⟩

theorem tracks_reachable
    (path : (system portmapMax aton storedTable storedEnabled).Reachable s) : Tracks s := by
  refine path.invariant (P := Tracks) ?_ ?_
  · exact ⟨within_of_dead fun _ => rfl, fun _ known => absurd rfl known,
      fun _ => ⟨rfl, fun _ => rfl⟩⟩
  · intro s a tracks guard
    exact tracks_step tracks a guard

theorem deleteRule_enabled (s : State) (key : Key) (saved : Bool) :
    (deleteRule s key saved).enabled = s.enabled := by
  unfold deleteRule
  split
  · rfl
  · simp

theorem deleteRule_dead {key : Key} (dead : ∀ key, s.live key = none) (saved : Bool) (k : Key) :
    (deleteRule s key saved).live k = none := by
  unfold deleteRule
  split
  · exact dead k
  · simp only [savePortmap_live, Store.erase]
    by_cases same : k = key
    · rw [same, Function.update_self]
    · rw [Function.update_of_ne same, dead k]

theorem dead_step (tracks : Tracks s) (dead : Dead s) (a : Action) (guard : Guard s a)
    (ok : AddsWhileUp s aton a) : Dead (effect s portmapMax aton a) := by
  cases a with
  | reboot => exact fun _ _ => rfl
  | start ip =>
      simp only [effect, start]
      split
      · exact nofun
      · exact fun _ => (tracks.fresh guard).2
  | natPost query saved =>
      simp only [effect]
      rcases natPost_cases s query saved with same | ⟨stored, enabled | disabled⟩
      · rw [same]
        exact dead
      · rw [enabled]
        exact nofun
      · rw [disabled]
        exact fun _ => removeAllLive_dead tracks.within
  | portmapPost query saved =>
      simp only [effect]
      rcases portmapPost_cases s aton query saved with
        ⟨same, _⟩ | ⟨key, deleted, _⟩ | ⟨rule, _, adds, room, added⟩
      · rw [same]
        exact dead
      · rw [deleted]
        intro off
        rw [deleteRule_enabled] at off
        exact deleteRule_dead (dead off) saved
      · rw [added]
        rcases addRule_cases s rule saved with
          ⟨full, _⟩ | ⟨i, found, _, enabled, _, _, live⟩
        · exact absurd full room
        · intro off
          rw [enabled] at off
          have unknown : s.staIp = 0 := (ok adds).resolve_left (by simp [off])
          rw [live, if_pos unknown]
          exact dead off
  | staGotIp ip =>
      simp only [effect, onStaGotIp]
      split
      · exact dead
      · split
        · exact dead
        · rename_i on _
          intro off
          rw [applyPortmap_enabled] at off
          exact absurd off (by simpa [removeAllLive] using on)
  | pauseForOta =>
      simp only [effect, pauseForOta]
      split
      · exact fun _ => removeAllLive_dead tracks.within
      · exact dead
  | resumeAfterOta =>
      simp only [effect, resumeAfterOta]
      split
      · exact nofun
      · exact dead

theorem dead_reachable
    (path : (system portmapMax aton storedTable storedEnabled).ReachableWhen
      (fun s => AddsWhileUp s aton) s) : Dead s := by
  refine path.invariant_with (K := Tracks) (P := Dead) (fun _ => tracks_reachable) ?_ ?_
  · exact fun _ _ => rfl
  · intro s a tracks dead guard ok
    exact dead_step tracks dead a guard ok

end Runs

/-- **Live mappings.** While the SoftAP is up and the address known, exactly the rules are live, in
every run. While it is off nothing is live, in a run in which no rule is added while the SoftAP is
off and the address known; adding one then makes it live at once. -/
theorem port_mappings (portmapMax : Nat) (aton : String → Option UInt32)
    (storedTable : Option Table) (storedEnabled : Option UInt8) (s : State) :
    ((system portmapMax aton storedTable storedEnabled).Reachable s → Exact s) ∧
      ((system portmapMax aton storedTable storedEnabled).ReachableWhen
        (fun s => AddsWhileUp s aton) s → Exact s ∧ Dead s) ∧
      ∀ a, ¬ AddsWhileUp s aton a → ¬ Dead (effect s portmapMax aton a) := by
  refine ⟨fun path => (tracks_reachable path).exact,
    fun path => ⟨(tracks_reachable path.reachable).exact, dead_reachable path⟩, ?_⟩
  intro a wrong dead
  cases a with
  | portmapPost query saved =>
      simp only [AddsWhileUp, not_forall, not_or, Bool.not_eq_true] at wrong
      obtain ⟨adds, off, known⟩ := wrong
      simp only [effect] at dead
      rcases portmapPost_cases s aton query saved with
        ⟨_, other⟩ | ⟨_, _, other⟩ | ⟨rule, _, _, room, added⟩
      · exact other adds
      · exact other adds
      · rw [added] at dead
        rcases addRule_cases s rule saved with
          ⟨full, _⟩ | ⟨i, found, _, enabled, _, _, live⟩
        · exact room full
        · have gone := dead (enabled.trans off) rule.key
          rw [live, if_neg known, Store.put, Function.update_self] at gone
          cases gone
  | _ => exact wrong trivial

/-! ## Runs on a network -/

/-- Two addresses, in network byte order. -/
def someAddresses (text : String) : Option UInt32 :=
  if text = "192.168.4.50" then some 0x3204A8C0
  else if text = "192.168.4.51" then some 0x3304A8C0
  else none

def forward : Query := fun key =>
  [("proto", "tcp"), ("mport", "8080"), ("daddr", "192.168.4.50"), ("dport", "80")].lookup key

def network : ActionSystem State Action := system 4 someAddresses none none

/-- The SoftAP is switched off, and a rule is added: it is live. -/
theorem added_while_off :
    let s := network.final
      [.start (some 0x3201A8C0), .natPost (some fun key => [("enabled", "0")].lookup key) true,
        .portmapPost (some forward) true]
    s.enabled = false ∧ s.live (protoTcp, 8080) = some ⟨0x3201A8C0, 0x3204A8C0, 80⟩ := by
  decide +kernel

/-- A rule is added while the address is not known, and the address comes and changes. -/
theorem port_mappings_two_addresses :
    ∃ s, Exact s ∧ Dead s ∧ s.enabled = true ∧ s.staIp = 0x3301A8C0 ∧
      s.live (protoTcp, 8080) = some ⟨0x3301A8C0, 0x3204A8C0, 80⟩ := by
  let s := network.finalFrom (fun s => AddsWhileUp s someAddresses) network.init
    [.start none, .portmapPost (some forward) true, .staGotIp 0x3201A8C0, .staGotIp 0x3301A8C0]
  have path : network.ReachableWhen (fun s => AddsWhileUp s someAddresses) s :=
    network.reachable_finalFrom (fun s => AddsWhileUp s someAddresses) network.init _
  have fine := (port_mappings 4 someAddresses none none s).2.1 path
  exact ⟨s, fine.1, fine.2, by decide +kernel⟩

end NimbleProxy.NatRouter.PortMap
