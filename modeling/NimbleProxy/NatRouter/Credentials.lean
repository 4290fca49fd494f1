/-
# NatRouter.Credentials -- the name and the password of the SoftAP, in RAM, in NVS and on the air

`nat_post` of `nat_router.cpp` with `load_ap_creds`, `save_ap_creds` and the places that
bring the SoftAP up. The name is checked and copied into RAM, then the password is checked
and copied, then both are saved and the radio is told. The answers of NVS are not looked at.

So a request that is refused for its password has changed the name already; a value that
does not fit the buffer of the handler is taken for one that was not given; and what NVS
does not take is answered ok. `allOrNothing_iff` says for which requests none of this matters.
Nor does a name of 32 bytes go on the air as it is (`broadcast_configureAp_iff`).

A query has for each key the value that was given, whatever its length. The rules, DNS,
DHCP and NAPT are in `PortMap` or left out.
-/
import NimbleProxy.NatRouter.SoftAp
import NimbleProxy.Theory.ActionSystem
import NimbleProxy.Theory.StoreSession

namespace NimbleProxy.NatRouter.Credentials

open NimbleProxy.Theory ActionSystem KeyValue CString SoftAp

set_option autoImplicit false

/-! ## The router -/

/-- What the build says. -/
structure Config where
  /-- `CONFIG_NBP_NAT_AP_SSID` -/
  ssid : Str
  /-- `CONFIG_NBP_NAT_AP_PASSWORD` -/
  password : Str
  /-- `CONFIG_NBP_NAT_AP_MAX_CONN` -/
  maxConn : UInt8

inductive NvsValue
  | u8 (value : UInt8)
  | str (text : Str)
  deriving DecidableEq

/-- The namespace `nat`. -/
abbrev Nvs := Store String NvsValue

structure State where
  /-- `g_ap_ssid` -/
  ssid : Text 33
  /-- `g_ap_psk` -/
  psk : Text 64
  /-- `g_enabled` -/
  enabled : Bool
  /-- `g_ota_resume_ap` -/
  otaResumeAp : Bool
  /-- what the SoftAP runs with while it is up -/
  running : Option ApConfig
  nvs : Nvs

/-- `nvs_get_str` with the 64 bytes of `tmp`. -/
def nvsGetStr (entry : Option NvsValue) : Option Str :=
  match entry with
  | some (.str text) => if text.val.length < 64 then some text else none
  | _ => none

/-- What `load_ap_creds` makes of `NVS_AP_SSID`; an empty name is none. -/
def loadSsid (cfg : Config) (entry : Option NvsValue) : Text 33 :=
  match nvsGetStr entry with
  | none => .copy cfg.ssid
  | some tmp => if tmp.val = [] then .copy cfg.ssid else .copy tmp

/-- What `load_ap_creds` makes of `NVS_AP_PSK`. -/
def loadPsk (cfg : Config) (entry : Option NvsValue) : Text 64 :=
  match nvsGetStr entry with
  | none => .copy cfg.password
  | some tmp => .copy tmp

def loadApCreds (cfg : Config) (nvs : Nvs) : Text 33 × Text 64 :=
  (loadSsid cfg (nvs "ap_ssid"), loadPsk cfg (nvs "ap_psk"))

def loadEnabled (nvs : Nvs) : Bool :=
  match nvs "enabled" with
  | some (.u8 value) => value != 0
  | _ => true

variable (cfg : Config) (primary : UInt8) (s : State)

/-- The calls of `save_ap_creds`. -/
def credWrites : List (String × NvsValue) :=
  [("ap_ssid", .str s.ssid.str), ("ap_psk", .str s.psk.str)]

def saveApCreds (outcome : Outcome String) : State :=
  { s with nvs := s.nvs.attempt outcome (credWrites s) }

def saveEnabled (en : Bool) (outcome : Outcome String) : State :=
  { s with nvs := s.nvs.attempt outcome [("enabled", .u8 (if en then 1 else 0))] }

/-- The radio is told. -/
def configure : State := { s with running := some (configureAp s.ssid s.psk primary cfg.maxConn) }

def apUp : State := { configure cfg primary s with enabled := true }

def apDown : State := { s with running := none, enabled := false }

def pauseForOta : State :=
  let s := { s with otaResumeAp := s.enabled }
  if s.enabled then apDown s else s

def resumeAfterOta : State :=
  let s := if s.otaResumeAp then apUp cfg primary s else s
  { s with otaResumeAp := false }

/-- `start`, after a reset. -/
def start (nvs : Nvs) : State :=
  let s : State :=
    { ssid := (loadApCreds cfg nvs).1, psk := (loadApCreds cfg nvs).2, enabled := loadEnabled nvs
      otaResumeAp := false, running := none, nvs }
  if s.enabled then apUp cfg primary s else s

/-! ## Requests -/

abbrev Query := String → Option Str

/-- `httpd_query_key_value`: a value that does not fit is cut, and that is not `ESP_OK`. -/
def queryKeyValue (query : Query) (key : String) (size : Nat) : Option Str :=
  (query key).filter fun value => value.val.length < size

/-- `have_ssid`, and the value. -/
def givenSsid (query : Query) : Option Str := queryKeyValue query "ssid" 33

def givenPsk (query : Query) : Option Str := queryKeyValue query "psk" 64

def givenEnabled (query : Query) : Option Str := queryKeyValue query "enabled" 8

/-- The check of the name, and the copy. -/
def setSsid (given : Option Str) : State × Option String :=
  match given with
  | none => (s, none)
  | some ssid =>
      if ssid.val.length < 1 ∨ 32 < ssid.val.length then (s, some "ssid must be 1..32 chars")
      else ({ s with ssid := .copy ssid }, none)

/-- The check of the password, and the copy. -/
def setPsk (given : Option Str) : State × Option String :=
  match given with
  | none => (s, none)
  | some psk =>
      if psk.val.length ≠ 0 ∧ (psk.val.length < 8 ∨ 63 < psk.val.length) then
        (s, some "psk must be empty or 8..63 chars")
      else ({ s with psk := .copy psk }, none)

/-- The credentials are saved and the radio is told, if there are any. -/
def applyCreds (query : Query) (outcome : Outcome String) : State :=
  if givenSsid query = none ∧ givenPsk query = none then s
  else
    let s := saveApCreds s outcome
    if s.enabled then configure cfg primary s else s

/-- `en[0] == '1'`. -/
def isOne (en : Str) : Bool := en.val.head? == some 49

/-- `enabled=` of a request. -/
def setEnabled (given : Option Str) (outcome : Outcome String) : State :=
  match given with
  | none => s
  | some en =>
      let want := isOne en
      if want = s.enabled then s
      else saveEnabled (if want then apUp cfg primary s else apDown s) want outcome

/-- NVS has an outcome for the credentials and one for the flag. -/
def natPost (query : Option Query) (credOutcome flagOutcome : Outcome String) :
    State × Option String :=
  match query with
  | none => (s, some "missing query")
  | some query =>
      if givenEnabled query = none ∧ givenSsid query = none ∧ givenPsk query = none then
        (s, some "need enabled=, ssid= or psk=")
      else
        match setSsid s (givenSsid query) with
        | (s, some text) => (s, some text)
        | (s, none) =>
            match setPsk s (givenPsk query) with
            | (s, some text) => (s, some text)
            | (s, none) =>
                (setEnabled cfg primary (applyCreds cfg primary s query credOutcome)
                  (givenEnabled query) flagOutcome, none)

/-! ## All or nothing -/

/-- The name and the password in RAM, which GET /nat answers with, are what a reboot finds and what
the SoftAP runs with. -/
structure Agrees : Prop where
  stored : loadApCreds cfg s.nvs = (s.ssid, s.psk)
  onAir : s.enabled = true →
    ∃ c ∈ s.running, c.broadcast = s.ssid.bytes ∧ c.secret = askedFor s.psk

/-- What a request is to do. -/
structure AllOrNothing (before : State) (query : Option Query) (result : State × Option String) :
    Prop where
  refused : ∀ text, result.2 = some text → result.1 = before
  given : result.2 = none → ∀ q ∈ query,
    result.1.ssid.bytes = ((q "ssid").elim before.ssid.bytes Subtype.val) ∧
      result.1.psk.bytes = ((q "psk").elim before.psk.bytes Subtype.val)
  stored : result.2 = none → ∀ q ∈ query,
    (∀ ssid ∈ q "ssid", (loadApCreds cfg result.1.nvs).1.bytes = ssid.val) ∧
      ∀ psk ∈ q "psk", (loadApCreds cfg result.1.nvs).2.bytes = psk.val
  agrees : result.2 = none → Agrees cfg before → Agrees cfg result.1

variable (query : Query)

/-- The request passes the checks. -/
structure Accepted : Prop where
  some_ : ¬ (givenEnabled query = none ∧ givenSsid query = none ∧ givenPsk query = none)
  ssid : ∀ ssid ∈ givenSsid query, ssid.val ≠ []
  psk : ∀ psk ∈ givenPsk query, psk.val = [] ∨ 8 ≤ psk.val.length

/-- The name in RAM after the copy. -/
def newSsid : Text 33 := (givenSsid query).elim s.ssid fun ssid => .copy ssid

def newPsk : Text 64 := (givenPsk query).elim s.psk fun psk => .copy psk

/-- The SoftAP is to be up after the request. -/
def upAfter : Bool := (givenEnabled query).elim s.enabled isOne

/-- The radio is told about the credentials if the SoftAP is to be up. -/
def Tells : Prop := givenSsid query ≠ none ∨ givenPsk query ≠ none ∨ s.enabled = false

/-- A request that is refused has no name that would have passed, or the one in use. One that is
accepted has values that fit, they land in NVS or are there, and if the radio is told, the name has
at most 31 bytes. -/
structure Sound (credOutcome : Outcome String) : Prop where
  refused : ¬ Accepted query → (∀ ssid ∈ givenSsid query, ssid.val ≠ []) → newSsid s query = s.ssid
  fits : Accepted query →
    (∀ ssid ∈ query "ssid", ssid.val.length < 33) ∧ ∀ psk ∈ query "psk", psk.val.length < 64
  lands : Accepted query →
    (∀ ssid ∈ givenSsid query,
        credOutcome.lands "ap_ssid" = true ∨ (loadApCreds cfg s.nvs).1.bytes = ssid.val) ∧
      ∀ psk ∈ givenPsk query,
        credOutcome.lands "ap_psk" = true ∨ (loadApCreds cfg s.nvs).2.bytes = psk.val
  onAir : Accepted query → Agrees cfg s → upAfter s query = true → Tells s query →
    (newSsid s query).bytes.length ≤ 31

section Storage

variable {cfg : Config} {entry : Option NvsValue} {nvs : Nvs}

theorem nvsGetStr_str {text : Str} (short : text.val.length < 64) :
    nvsGetStr (some (.str text)) = some text :=
  if_pos short

/-- A name that was saved. -/
theorem loadSsid_saved {ssid : Text 33} (some_ : ssid.bytes ≠ []) :
    loadSsid cfg (some (.str ssid.str)) = ssid := by
  have short := ssid.short
  rw [loadSsid, nvsGetStr_str (show ssid.bytes.length < 64 by omega)]
  show (if ssid.bytes = [] then _ else _) = ssid
  rw [if_neg some_]
  exact Text.copy_str ssid

/-- A name that was loaded, and saved again. -/
theorem loadSsid_again : loadSsid cfg (some (.str (loadSsid cfg entry).str)) = loadSsid cfg entry := by
  by_cases some_ : (loadSsid cfg entry).bytes = []
  · -- an empty name is the one of the build
    have build : loadSsid cfg entry = .copy cfg.ssid := by
      unfold loadSsid at some_ ⊢
      split
      · rfl
      · rename_i tmp read
        rw [read] at some_
        dsimp only at some_
        split
        · rfl
        · rename_i other
          rw [if_neg other] at some_
          exact absurd (List.take_eq_nil_iff.mp some_) (by simp [other])
    have short := (loadSsid cfg entry).short
    rw [loadSsid, nvsGetStr_str (show (loadSsid cfg entry).bytes.length < 64 by omega)]
    show (if (loadSsid cfg entry).bytes = [] then _ else _) = loadSsid cfg entry
    rw [if_pos some_, build]
  · exact loadSsid_saved some_

theorem loadPsk_saved (psk : Text 64) : loadPsk cfg (some (.str psk.str)) = psk := by
  rw [loadPsk, nvsGetStr_str psk.short]
  exact Text.copy_str psk

theorem nodup_credWrites (s : State) : ((credWrites s).map Prod.fst).Nodup := by
  simp [credWrites]

/-- What a reboot finds after the credentials have been saved. -/
theorem loadApCreds_attempt (s : State) (outcome : Outcome String) :
    loadApCreds cfg (nvs.attempt outcome (credWrites s)) =
      (if outcome.lands "ap_ssid" then loadSsid cfg (some (.str s.ssid.str))
        else (loadApCreds cfg nvs).1,
      if outcome.lands "ap_psk" then s.psk else (loadApCreds cfg nvs).2) := by
  have ssid : nvs.attempt outcome (credWrites s) "ap_ssid" =
      if outcome.lands "ap_ssid" then some (.str s.ssid.str) else nvs "ap_ssid" :=
    attempt_of_mem (nodup_credWrites s) List.mem_cons_self
  have psk : nvs.attempt outcome (credWrites s) "ap_psk" =
      if outcome.lands "ap_psk" then some (.str s.psk.str) else nvs "ap_psk" :=
    attempt_of_mem (nodup_credWrites s) (List.mem_cons_of_mem _ List.mem_cons_self)
  rw [loadApCreds, ssid, psk, apply_ite (loadSsid cfg), apply_ite (loadPsk cfg), loadPsk_saved]
  rfl

end Storage

/-! ## What a request does -/

section Requests

variable {cfg : Config} {primary : UInt8} {s : State} {query : Query}
  {credOutcome flagOutcome : Outcome String}

theorem givenSsid_short {ssid : Str} (given : ssid ∈ givenSsid query) : ssid.val.length < 33 := by
  obtain ⟨_, short⟩ := Option.mem_filter_iff.mp given
  simpa using short

theorem givenPsk_short {psk : Str} (given : psk ∈ givenPsk query) : psk.val.length < 64 := by
  obtain ⟨_, short⟩ := Option.mem_filter_iff.mp given
  simpa using short

/-- A refused name leaves everything. -/
theorem setSsid_eq (s : State) (query : Query) :
    ((∀ ssid ∈ givenSsid query, ssid.val ≠ []) ∧
        setSsid s (givenSsid query) = ({ s with ssid := newSsid s query }, none)) ∨
      (¬ (∀ ssid ∈ givenSsid query, ssid.val ≠ []) ∧
        setSsid s (givenSsid query) = (s, some "ssid must be 1..32 chars")) := by
  cases given : givenSsid query with
  | none => exact .inl ⟨nofun, by simp only [setSsid, newSsid, given]; rfl⟩
  | some ssid =>
      have short := givenSsid_short given
      by_cases empty : ssid.val = []
      · refine .inr ⟨fun all => all ssid rfl empty, if_pos (.inl ?_)⟩
        rw [empty]
        decide
      · have positive := List.length_pos_iff.mpr empty
        refine .inl ⟨fun _ same => Option.some.inj same ▸ empty, ?_⟩
        simp only [setSsid, newSsid, given]
        exact if_neg (by omega)

/-- A refused password leaves everything, the name included. -/
theorem setPsk_eq (s : State) (query : Query) :
    ((∀ psk ∈ givenPsk query, psk.val = [] ∨ 8 ≤ psk.val.length) ∧
        setPsk s (givenPsk query) = ({ s with psk := newPsk s query }, none)) ∨
      (¬ (∀ psk ∈ givenPsk query, psk.val = [] ∨ 8 ≤ psk.val.length) ∧
        setPsk s (givenPsk query) = (s, some "psk must be empty or 8..63 chars")) := by
  cases given : givenPsk query with
  | none => exact .inl ⟨nofun, by simp only [setPsk, newPsk, given]; rfl⟩
  | some psk =>
      have short := givenPsk_short given
      by_cases fine : psk.val = [] ∨ 8 ≤ psk.val.length
      · refine .inl ⟨fun _ same => Option.some.inj same ▸ fine, ?_⟩
        simp only [setPsk, newPsk, given]
        apply if_neg
        rcases fine with empty | long
        · simp [empty]
        · omega
      · refine .inr ⟨fun all => fine (all psk rfl), if_pos ?_⟩
        rw [not_or, ← List.length_eq_zero_iff] at fine
        omega

/-- The router with the new credentials in RAM. -/
def withCreds (s : State) (query : Query) : State :=
  { s with ssid := newSsid s query, psk := newPsk s query }

theorem natPost_accepted (accepted : Accepted query) :
    natPost cfg primary s (some query) credOutcome flagOutcome =
      (setEnabled cfg primary (applyCreds cfg primary (withCreds s query) query credOutcome)
        (givenEnabled query) flagOutcome, none) := by
  rcases setSsid_eq s query with ⟨_, ssid⟩ | ⟨refused, _⟩
  · rcases setPsk_eq { s with ssid := newSsid s query } query with ⟨_, psk⟩ | ⟨refused, _⟩
    · simp only [natPost, if_neg accepted.some_, ssid, psk]
      rfl
    · exact absurd accepted.psk refused
  · exact absurd accepted.ssid refused

variable (cfg primary s credOutcome flagOutcome) in
/-- A request that is refused has changed the name, if it had one that passes. -/
theorem natPost_refused (refused : ¬ Accepted query) :
    ∃ text, (natPost cfg primary s (some query) credOutcome flagOutcome).2 = some text ∧
      ((natPost cfg primary s (some query) credOutcome flagOutcome).1 = s ↔
        ((∀ ssid ∈ givenSsid query, ssid.val ≠ []) → newSsid s query = s.ssid)) := by
  by_cases nothing : givenEnabled query = none ∧ givenSsid query = none ∧ givenPsk query = none
  · refine ⟨"need enabled=, ssid= or psk=", ?_, ?_⟩
    · simp only [natPost, if_pos nothing]
    · have same : newSsid s query = s.ssid := by rw [newSsid, nothing.2.1]; rfl
      simp only [natPost, if_pos nothing]
      exact iff_of_true trivial fun _ => same
  · rcases setSsid_eq s query with ⟨fine, ssid⟩ | ⟨bad, ssid⟩
    · rcases setPsk_eq { s with ssid := newSsid s query } query with ⟨fine', _⟩ | ⟨_, psk⟩
      · exact absurd ⟨nothing, fine, fine'⟩ refused
      · refine ⟨"psk must be empty or 8..63 chars", ?_, ?_⟩
        · simp only [natPost, if_neg nothing, ssid, psk]
        · simp only [natPost, if_neg nothing, ssid, psk]
          refine ⟨fun same _ => congrArg State.ssid same, fun same => ?_⟩
          rw [same fine]
    · refine ⟨"ssid must be 1..32 chars", ?_, ?_⟩
      · simp only [natPost, if_neg nothing, ssid]
      · simp only [natPost, if_neg nothing, ssid]
        exact iff_of_true trivial fun fine => absurd fine bad

theorem applyCreds_ssid : (applyCreds cfg primary s query credOutcome).ssid = s.ssid := by
  unfold applyCreds
  split
  · rfl
  · dsimp only
    split <;> rfl

theorem applyCreds_psk : (applyCreds cfg primary s query credOutcome).psk = s.psk := by
  unfold applyCreds
  split
  · rfl
  · dsimp only
    split <;> rfl

theorem applyCreds_enabled : (applyCreds cfg primary s query credOutcome).enabled = s.enabled := by
  unfold applyCreds
  split
  · rfl
  · dsimp only
    split <;> rfl

theorem applyCreds_nvs : (applyCreds cfg primary s query credOutcome).nvs =
    if givenSsid query = none ∧ givenPsk query = none then s.nvs
    else s.nvs.attempt credOutcome (credWrites s) := by
  unfold applyCreds
  split
  · rfl
  · dsimp only
    split <;> rfl

theorem applyCreds_running (up : s.enabled = true) :
    (applyCreds cfg primary s query credOutcome).running =
      if givenSsid query = none ∧ givenPsk query = none then s.running
      else some (configureAp s.ssid s.psk primary cfg.maxConn) := by
  unfold applyCreds
  split
  · rfl
  · exact congrArg State.running (if_pos up)

variable {given : Option Str}

/-- What the flag leaves as it is. -/
theorem setEnabled_creds : (setEnabled cfg primary s given flagOutcome).ssid = s.ssid ∧
    (setEnabled cfg primary s given flagOutcome).psk = s.psk ∧
    loadApCreds cfg (setEnabled cfg primary s given flagOutcome).nvs = loadApCreds cfg s.nvs := by
  have kept (want : Bool) : loadApCreds cfg (s.nvs.attempt flagOutcome
      [("enabled", .u8 (if want then 1 else 0))]) = loadApCreds cfg s.nvs := by
    rw [loadApCreds, attempt_of_notMem (by simp), attempt_of_notMem (by simp), loadApCreds]
  unfold setEnabled
  split
  · exact ⟨rfl, rfl, rfl⟩
  · rename_i en
    dsimp only
    split
    · exact ⟨rfl, rfl, rfl⟩
    · split
      · exact ⟨rfl, rfl, kept (isOne en)⟩
      · exact ⟨rfl, rfl, kept (isOne en)⟩

theorem setEnabled_enabled :
    (setEnabled cfg primary s given flagOutcome).enabled = given.elim s.enabled isOne := by
  unfold setEnabled
  split
  · rfl
  · rename_i en
    dsimp only [Option.elim]
    split
    · rename_i same
      exact same.symm
    · split
      · rename_i on
        exact on.symm
      · rename_i off
        exact (Bool.eq_false_iff.mpr off).symm

theorem setEnabled_running (up : (setEnabled cfg primary s given flagOutcome).enabled = true) :
    (setEnabled cfg primary s given flagOutcome).running =
      if s.enabled then s.running else some (configureAp s.ssid s.psk primary cfg.maxConn) := by
  rw [setEnabled_enabled] at up
  unfold setEnabled
  split
  · exact (if_pos up).symm
  · rename_i en
    have on : isOne en = true := up
    dsimp only
    split
    · rename_i same
      exact (if_pos (same ▸ on)).symm
    · rename_i other
      rw [if_neg fun both => other (on.trans both.symm)]
      rfl

variable (cfg primary s credOutcome flagOutcome) in
/-- What is in RAM after a request that is accepted. -/
theorem accepted_ram (accepted : Accepted query) :
    (natPost cfg primary s (some query) credOutcome flagOutcome).1.ssid = newSsid s query ∧
      (natPost cfg primary s (some query) credOutcome flagOutcome).1.psk = newPsk s query ∧
      (natPost cfg primary s (some query) credOutcome flagOutcome).1.enabled = upAfter s query := by
  rw [natPost_accepted accepted]
  refine ⟨?_, ?_, ?_⟩
  · rw [setEnabled_creds.1, applyCreds_ssid]
    rfl
  · rw [setEnabled_creds.2.1, applyCreds_psk]
    rfl
  · rw [setEnabled_enabled, applyCreds_enabled]
    rfl

/-- What a reboot finds after it. -/
theorem accepted_stored (accepted : Accepted query) :
    loadApCreds cfg (natPost cfg primary s (some query) credOutcome flagOutcome).1.nvs =
      if givenSsid query = none ∧ givenPsk query = none then loadApCreds cfg s.nvs
      else
        (if credOutcome.lands "ap_ssid" then loadSsid cfg (some (.str (newSsid s query).str))
          else (loadApCreds cfg s.nvs).1,
        if credOutcome.lands "ap_psk" then newPsk s query else (loadApCreds cfg s.nvs).2) := by
  rw [natPost_accepted accepted, setEnabled_creds.2.2, applyCreds_nvs]
  split
  · rfl
  · exact loadApCreds_attempt (withCreds s query) credOutcome

/-- What the SoftAP runs with after it. -/
theorem accepted_running (accepted : Accepted query) (up : upAfter s query = true) :
    (Tells s query ∧ (natPost cfg primary s (some query) credOutcome flagOutcome).1.running =
        some (configureAp (newSsid s query) (newPsk s query) primary cfg.maxConn)) ∨
      (¬ Tells s query ∧
        (natPost cfg primary s (some query) credOutcome flagOutcome).1.running = s.running ∧
        newSsid s query = s.ssid ∧ newPsk s query = s.psk ∧ s.enabled = true) := by
  have up' : (natPost cfg primary s (some query) credOutcome flagOutcome).1.enabled = true :=
    (accepted_ram cfg primary s credOutcome flagOutcome accepted).2.2.trans up
  rw [natPost_accepted accepted] at up' ⊢
  dsimp only at up' ⊢
  rw [setEnabled_running up', applyCreds_enabled, applyCreds_ssid, applyCreds_psk]
  show (_ ∧ (if s.enabled = true then _ else _) = _) ∨
    (_ ∧ (if s.enabled = true then _ else _) = _ ∧ _)
  by_cases on : s.enabled = true
  · rw [if_pos on, applyCreds_running (show (withCreds s query).enabled = true from on)]
    by_cases nothing : givenSsid query = none ∧ givenPsk query = none
    · rw [if_pos nothing]
      refine .inr ⟨?_, rfl, ?_, ?_, on⟩
      · simp [Tells, nothing, on]
      · rw [newSsid, nothing.1]
        rfl
      · rw [newPsk, nothing.2]
        rfl
    · rw [if_neg nothing]
      refine .inl ⟨?_, rfl⟩
      rw [not_and_or] at nothing
      exact nothing.imp_right .inl
  · rw [if_neg on]
    exact .inl ⟨.inr (.inr (Bool.eq_false_iff.mpr on)), rfl⟩

theorem newSsid_given {ssid : Str} (given : ssid ∈ givenSsid query) :
    (newSsid s query).bytes = ssid.val := by
  rw [newSsid, Option.mem_def.mp given]
  show (Text.copy ssid).bytes = ssid.val
  exact Text.copy_bytes (givenSsid_short given)

theorem newPsk_given {psk : Str} (given : psk ∈ givenPsk query) :
    (newPsk s query).bytes = psk.val := by
  rw [newPsk, Option.mem_def.mp given]
  show (Text.copy psk).bytes = psk.val
  exact Text.copy_bytes (givenPsk_short given)

theorem newSsid_eq_iff : (newSsid s query).bytes = (query "ssid").elim s.ssid.bytes Subtype.val ↔
    ∀ ssid ∈ query "ssid", ssid.val.length < 33 := by
  cases value : query "ssid" with
  | none => exact iff_of_true (by simp [newSsid, givenSsid, queryKeyValue, value]) nofun
  | some ssid =>
      simp only [Option.elim, Option.mem_some_iff, forall_eq']
      refine ⟨fun same => same ▸ (newSsid s query).short, fun short => newSsid_given ?_⟩
      exact Option.mem_filter_iff.mpr ⟨value, by simpa using short⟩

theorem newPsk_eq_iff : (newPsk s query).bytes = (query "psk").elim s.psk.bytes Subtype.val ↔
    ∀ psk ∈ query "psk", psk.val.length < 64 := by
  cases value : query "psk" with
  | none => exact iff_of_true (by simp [newPsk, givenPsk, queryKeyValue, value]) nofun
  | some psk =>
      simp only [Option.elim, Option.mem_some_iff, forall_eq']
      refine ⟨fun same => same ▸ (newPsk s query).short, fun short => newPsk_given ?_⟩
      exact Option.mem_filter_iff.mpr ⟨value, by simpa using short⟩

/-- A name that is given, or the one that NVS gave, is found again when it has been saved. -/
theorem loadSsid_newSsid (accepted : Accepted query)
    (stored : givenSsid query = none → (loadApCreds cfg s.nvs).1 = s.ssid) :
    loadSsid cfg (some (.str (newSsid s query).str)) = newSsid s query := by
  cases given : givenSsid query with
  | none =>
      have same : newSsid s query = loadSsid cfg (s.nvs "ap_ssid") := by
        rw [newSsid, given]
        exact (stored given).symm
      rw [same]
      exact loadSsid_again
  | some ssid =>
      apply loadSsid_saved
      rw [newSsid_given given]
      exact accepted.ssid ssid given

/-- A given name is what a reboot finds if it lands, or is there. -/
theorem stored_ssid_iff (accepted : Accepted query) {ssid : Str} (given : ssid ∈ givenSsid query) :
    (loadApCreds cfg (natPost cfg primary s (some query) credOutcome flagOutcome).1.nvs).1.bytes =
        ssid.val ↔
      credOutcome.lands "ap_ssid" = true ∨ (loadApCreds cfg s.nvs).1.bytes = ssid.val := by
  have some_ : givenSsid query ≠ none := fun none_ => by simp [none_] at given
  rw [accepted_stored accepted, if_neg (fun nothing => some_ nothing.1)]
  dsimp only
  split
  · rename_i lands
    rw [loadSsid_newSsid accepted fun none_ => absurd none_ some_]
    exact iff_of_true (newSsid_given given) (.inl lands)
  · rename_i lost
    exact (or_iff_right lost).symm

theorem stored_psk_iff (accepted : Accepted query) {psk : Str} (given : psk ∈ givenPsk query) :
    (loadApCreds cfg (natPost cfg primary s (some query) credOutcome flagOutcome).1.nvs).2.bytes =
        psk.val ↔
      credOutcome.lands "ap_psk" = true ∨ (loadApCreds cfg s.nvs).2.bytes = psk.val := by
  have some_ : givenPsk query ≠ none := fun none_ => by simp [none_] at given
  rw [accepted_stored accepted, if_neg (fun nothing => some_ nothing.2)]
  dsimp only
  split
  · rename_i lands
    exact iff_of_true (newPsk_given given) (.inl lands)
  · rename_i lost
    exact (or_iff_right lost).symm

/-- NVS has the new credentials after an accepted request. -/
theorem accepted_agrees (accepted : Accepted query) (sound : Sound cfg s query credOutcome)
    (agrees : Agrees cfg s) :
    Agrees cfg (natPost cfg primary s (some query) credOutcome flagOutcome).1 := by
  obtain ⟨ssid, psk, enabled⟩ := accepted_ram cfg primary s credOutcome flagOutcome accepted
  have ssid_ : (loadApCreds cfg s.nvs).1 = s.ssid := congrArg Prod.fst agrees.stored
  have psk_ : (loadApCreds cfg s.nvs).2 = s.psk := congrArg Prod.snd agrees.stored
  refine ⟨?_, fun up => ?_⟩
  · rw [accepted_stored accepted, ssid, psk]
    split
    · rename_i nothing
      rw [agrees.stored, newSsid, newPsk, nothing.1, nothing.2]
      rfl
    · refine Prod.ext ?_ ?_
      · dsimp only
        split
        · exact loadSsid_newSsid accepted fun _ => ssid_
        · rename_i lost
          cases given : givenSsid query with
          | none =>
              rw [ssid_, newSsid, given]
              rfl
          | some value =>
              refine Text.ext (Eq.trans ?_ (newSsid_given given).symm)
              exact ((sound.lands accepted).1 value given).resolve_left lost
      · dsimp only
        split
        · rfl
        · rename_i lost
          cases given : givenPsk query with
          | none =>
              rw [psk_, newPsk, given]
              rfl
          | some value =>
              refine Text.ext (Eq.trans ?_ (newPsk_given given).symm)
              exact ((sound.lands accepted).2 value given).resolve_left lost
  · rw [enabled] at up
    rw [ssid, psk]
    rcases accepted_running accepted up with ⟨tells, running⟩ | ⟨_, running, ssid', psk', on⟩
    · rw [running]
      exact ⟨_, rfl, broadcast_configureAp_iff.mpr (sound.onAir accepted agrees up tells),
        secret_configureAp⟩
    · rw [running, ssid', psk']
      exact agrees.onAir on

variable (cfg primary s credOutcome flagOutcome) in
theorem allOrNothing_accepted_iff (accepted : Accepted query) :
    AllOrNothing cfg s (some query) (natPost cfg primary s (some query) credOutcome flagOutcome) ↔
      Sound cfg s query credOutcome := by
  have ok : (natPost cfg primary s (some query) credOutcome flagOutcome).2 = none :=
    congrArg Prod.snd (natPost_accepted accepted)
  obtain ⟨ssid, psk, enabled⟩ := accepted_ram cfg primary s credOutcome flagOutcome accepted
  constructor
  · intro all
    refine ⟨fun refused => absurd accepted refused, fun _ => ?_, fun _ => ⟨?_, ?_⟩, ?_⟩
    · have given := all.given ok query rfl
      rw [ssid, psk] at given
      exact ⟨newSsid_eq_iff.mp given.1, newPsk_eq_iff.mp given.2⟩
    · intro value given
      have stored := (all.stored ok query rfl).1 value (Option.mem_filter_iff.mp given).1
      exact (stored_ssid_iff accepted given).mp stored
    · intro value given
      have stored := (all.stored ok query rfl).2 value (Option.mem_filter_iff.mp given).1
      exact (stored_psk_iff accepted given).mp stored
    · intro _ agrees up tells
      obtain ⟨c, mem, name, _⟩ := (all.agrees ok agrees).onAir (enabled.trans up)
      rcases accepted_running accepted up with ⟨_, running⟩ | ⟨other, _⟩
      · rw [running] at mem
        cases mem
        rw [ssid] at name
        exact broadcast_configureAp_iff.mp name
      · exact absurd tells other
  · intro sound
    obtain ⟨ssidFits, pskFits⟩ := sound.fits accepted
    refine ⟨fun _ error => ?_, fun _ q mem => ?_, fun _ q mem => ⟨?_, ?_⟩, fun _ => ?_⟩
    · rw [ok] at error
      cases error
    · cases mem
      rw [ssid, psk]
      exact ⟨newSsid_eq_iff.mpr ssidFits, newPsk_eq_iff.mpr pskFits⟩
    · cases mem
      intro value named
      have given : value ∈ givenSsid query :=
        Option.mem_filter_iff.mpr ⟨named, by simpa using ssidFits value named⟩
      exact (stored_ssid_iff accepted given).mpr ((sound.lands accepted).1 value given)
    · cases mem
      intro value named
      have given : value ∈ givenPsk query :=
        Option.mem_filter_iff.mpr ⟨named, by simpa using pskFits value named⟩
      exact (stored_psk_iff accepted given).mpr ((sound.lands accepted).2 value given)
    · exact accepted_agrees accepted sound

variable (cfg primary s credOutcome flagOutcome) in
theorem allOrNothing_refused_iff (refused : ¬ Accepted query) :
    AllOrNothing cfg s (some query) (natPost cfg primary s (some query) credOutcome flagOutcome) ↔
      Sound cfg s query credOutcome := by
  obtain ⟨text, error, same⟩ := natPost_refused cfg primary s credOutcome flagOutcome refused
  constructor
  · intro all
    refine ⟨fun _ => same.mp (all.refused text error), ?_, ?_, ?_⟩
    all_goals exact fun accepted => absurd accepted refused
  · intro sound
    refine ⟨fun _ _ => same.mpr (sound.refused refused), ?_, ?_, ?_⟩
    all_goals
      rw [error]
      exact nofun

end Requests

/-- When a request is all or nothing. -/
theorem allOrNothing_iff (cfg : Config) (primary : UInt8) (s : State) (query : Option Query)
    (credOutcome flagOutcome : Outcome String) :
    AllOrNothing cfg s query (natPost cfg primary s query credOutcome flagOutcome) ↔
      ∀ q ∈ query, Sound cfg s q credOutcome := by
  cases query with
  | none => exact iff_of_true ⟨fun _ _ => rfl, nofun, nofun, nofun⟩ nofun
  | some query =>
      simp only [Option.mem_some_iff, forall_eq']
      by_cases accepted : Accepted query
      · exact allOrNothing_accepted_iff cfg primary s credOutcome flagOutcome accepted
      · exact allOrNothing_refused_iff cfg primary s credOutcome flagOutcome accepted

/-! ## Runs -/

/-- The channel of the station is part of what brings the SoftAP up. -/
inductive Action
  | natPost (query : Option Query) (credOutcome flagOutcome : Outcome String) (primary : UInt8)
  | pauseForOta
  | resumeAfterOta (primary : UInt8)
  | reboot (primary : UInt8)

def effect : Action → State
  | .natPost query credOutcome flagOutcome primary =>
      (natPost cfg primary s query credOutcome flagOutcome).1
  | .pauseForOta => pauseForOta s
  | .resumeAfterOta primary => resumeAfterOta cfg primary s
  | .reboot primary => start cfg primary s.nvs

def system (nvs : Nvs) : ActionSystem State Action where
  init := start cfg primary nvs
  Guard := fun _ _ => True
  guardDecidable := fun _ _ => isTrue trivial
  effect := effect cfg

/-- What a start finds in NVS goes on the air as it is, if the SoftAP is up. -/
def Starts (nvs : Nvs) : Prop :=
  loadEnabled nvs = true → (loadApCreds cfg nvs).1.bytes.length ≤ 31

/-- The requests are sound, and nothing else brings the SoftAP up with a name of 32 bytes. -/
def Meets : Action → Prop
  | .natPost query credOutcome _ _ => ∀ q ∈ query, Sound cfg s q credOutcome
  | .pauseForOta => True
  | .resumeAfterOta _ => s.otaResumeAp = true → s.ssid.bytes.length ≤ 31
  | .reboot _ => Starts cfg s.nvs

section Runs

variable {cfg : Config} {primary : UInt8} {s : State} {nvs : Nvs}

theorem agrees_apUp (stored : loadApCreds cfg s.nvs = (s.ssid, s.psk))
    (short : s.ssid.bytes.length ≤ 31) : Agrees cfg (apUp cfg primary s) :=
  ⟨stored, fun _ => ⟨_, rfl, broadcast_configureAp_iff.mpr short, secret_configureAp⟩⟩

theorem agrees_start (starts : Starts cfg nvs) : Agrees cfg (start cfg primary nvs) := by
  unfold start
  dsimp only
  split
  · rename_i up
    exact agrees_apUp rfl (starts up)
  · rename_i off
    exact ⟨rfl, fun up => absurd up off⟩

theorem agrees_step (agrees : Agrees cfg s) (a : Action) (meets : Meets cfg s a) :
    Agrees cfg (effect cfg s a) := by
  cases a with
  | natPost query credOutcome flagOutcome primary =>
      have all := (allOrNothing_iff cfg primary s query credOutcome flagOutcome).mpr meets
      cases answer : (natPost cfg primary s query credOutcome flagOutcome).2 with
      | none => exact all.agrees answer agrees
      | some text =>
          simp only [effect]
          rw [all.refused text answer]
          exact agrees
  | pauseForOta =>
      simp only [effect, pauseForOta]
      split
      · exact ⟨agrees.stored, nofun⟩
      · exact ⟨agrees.stored, agrees.onAir⟩
  | resumeAfterOta primary =>
      simp only [effect, resumeAfterOta]
      split
      · rename_i paused
        have up : Agrees cfg (apUp cfg primary s) := agrees_apUp agrees.stored (meets paused)
        exact ⟨up.stored, up.onAir⟩
      · exact ⟨agrees.stored, agrees.onAir⟩
  | reboot primary => exact agrees_start meets

theorem agrees_reachable (starts : Starts cfg nvs)
    (path : (system cfg primary nvs).ReachableWhen (Meets cfg) s) : Agrees cfg s := by
  refine ReachableFrom.invariant (P := Agrees cfg) ?_ path (agrees_start starts)
  intro s a agrees _ meets
  exact agrees_step agrees a meets

end Runs

/-- **POST /nat.** A request is all or nothing exactly if it is sound. In a run of such requests,
with no name of 32 bytes found in NVS or brought up otherwise, RAM, NVS and the SoftAP have the same
name and password all the time. -/
theorem nat_post (cfg : Config) (primary : UInt8) :
    (∀ s query credOutcome flagOutcome,
      AllOrNothing cfg s query (natPost cfg primary s query credOutcome flagOutcome) ↔
        ∀ q ∈ query, Sound cfg s q credOutcome) ∧
      ∀ nvs s, Starts cfg nvs → (system cfg primary nvs).ReachableWhen (Meets cfg) s →
        Agrees cfg s :=
  ⟨allOrNothing_iff cfg primary, fun _ _ starts path => agrees_reachable starts path⟩

/-! ## Requests on a device -/

def someConfig : Config where
  ssid := ⟨ascii "nimble-nat", by decide⟩
  password := ⟨ascii "nimble-pass", by decide⟩
  maxConn := 4

/-- POST /nat?ssid=attic. -/
def rename : Query := fun key => if key = "ssid" then some ⟨ascii "attic", by decide⟩ else none

/-- The name is changed, and found again by a reboot. -/
theorem nat_post_rename :
    ∃ s, Agrees someConfig s ∧ s.enabled = true ∧ s.ssid.bytes = ascii "attic" ∧
      s.psk.bytes = ascii "nimble-pass" := by
  have accepted : Accepted rename := by
    refine ⟨by decide, ?_, nofun⟩
    rintro _ ⟨⟩
    decide
  have sound : Sound someConfig (start someConfig 6 fun _ => none) rename {} := by
    refine ⟨fun refused => absurd accepted refused, fun _ => ⟨?_, nofun⟩,
      fun _ => ⟨fun _ _ => .inl rfl, nofun⟩, fun _ _ _ _ => by decide +kernel⟩
    rintro _ ⟨⟩
    decide
  let renamed := (natPost someConfig 6 (start someConfig 6 fun _ => none) (some rename) {} {}).1
  have first : (system someConfig 6 fun _ => none).ReachableWhen (Meets someConfig) renamed := by
    refine ReachableFrom.step (Action.natPost (some rename) {} {} 6) .refl trivial ?_
    rintro _ ⟨⟩
    exact sound
  have starts : Starts someConfig renamed.nvs := fun _ => by decide +kernel
  have path : (system someConfig 6 fun _ => none).ReachableWhen (Meets someConfig)
      (start someConfig 6 renamed.nvs) :=
    ReachableFrom.step (Action.reboot 6) first trivial starts
  have agrees := (nat_post someConfig 6).2 _ _ (fun _ => by decide +kernel) path
  exact ⟨_, agrees, by decide +kernel⟩

/-- POST /nat?ssid=attic&psk=short. -/
def shortPassword : Query := fun key =>
  if key = "ssid" then some ⟨ascii "attic", by decide⟩
  else if key = "psk" then some ⟨ascii "short", by decide⟩
  else none

/-- The answer is an error, and GET /nat answers with the new name from then on; the SoftAP and NVS
have the old one. -/
theorem name_left :
    let before := start someConfig 6 fun _ => none
    let answered := natPost someConfig 6 before (some shortPassword) {} {}
    answered.2 = some "psk must be empty or 8..63 chars" ∧ answered.1.ssid.bytes = ascii "attic" ∧
      (loadApCreds someConfig answered.1.nvs).1.bytes = ascii "nimble-nat" ∧
      ¬ AllOrNothing someConfig before (some shortPassword) answered := by
  refine ⟨by decide +kernel, by decide +kernel, by decide +kernel, fun all => ?_⟩
  have same := congrArg (fun s => s.ssid.bytes) (all.refused _ (by rfl))
  exact absurd same (by decide +kernel)

end NimbleProxy.NatRouter.Credentials
