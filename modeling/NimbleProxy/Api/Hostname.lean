/-
# Api.Hostname -- the name of the device, which a POST stores for the next boot

`stats.cpp`, `handle_hostname_set` and `apply_hostname_from_nvs`; `main.cpp` has the
buffer `g_hostname` with the default. Unlike the other settings the name is not applied
when it is posted: the handler writes NVS, the loader fills `g_hostname` at boot, and
nothing else touches either.

The handler does not write if the name is the one in use. That is the right thing
exactly if the name in use is also the one that NVS has, and between a POST and the
reboot that applies it NVS has another: `last_hostname_wins` says after which runs the
last accepted name is the one in use.

A query is what `httpd_query_key_value` answers, with the 31 bytes of `val`. A name is
its text without the NUL.
-/
import NimbleProxy.Api.Settings

namespace NimbleProxy.Api.Hostname

open NimbleProxy.Api.Settings (Query Answers)

set_option autoImplicit false

/-! ## The code -/

/-- `proxy::HOSTNAME_MAX`. -/
def hostnameMax : Nat := 30

/-- `proxy::DEFAULT_HOSTNAME`. -/
def defaultHostname : String := "nimble-proxy"

def nvsHostnameKey : String := "hostname"

def isHostnameChar (c : Char) : Bool := c.isAlphanum || c == '-' || c == '_' || c == '.'

def isValidHostname (s : String) : Bool :=
  let chars := s.toList
  if chars.length = 0 ∨ hostnameMax < chars.length then false
  else if chars.head? = some '-' ∨ chars.head? = some '.' then false
  else if chars.getLast? = some '-' ∨ chars.getLast? = some '.' then false
  else chars.all isHostnameChar

structure Device where
  /-- `g_hostname` -/
  hostname : String := defaultHostname
  /-- the string in NVS -/
  stored : Option String := none
  deriving DecidableEq

/-- `apply_hostname_from_nvs`; a string that does not fit the buffer is not read. -/
def applyHostnameFromNvs (stored : Option String) : String :=
  match stored with
  | none => defaultHostname
  | some name => if isValidHostname name then name else defaultHostname

/-- The device, and the text of the error, `none` for `nullptr`. -/
def handleHostnameSet (d : Device) (query : Query) (answers : Answers) : Device × Option String :=
  match query "val" with
  | none => (d, some "missing val=")
  | some val =>
      if !isValidHostname val then (d, some "invalid hostname (1..32 chars: A-Za-z0-9._-)")
      -- nothing is written for the name in use
      else if val = d.hostname then (d, none)
      else if !answers.nvsOpen then (d, some "nvs open failed")
      else if !answers.nvsWrite nvsHostnameKey then (d, some "nvs write failed")
      else ({ d with stored := some val }, none)

def reboot (d : Device) : Device := { d with hostname := applyHostnameFromNvs d.stored }

/-- A request that is answered ok names a valid name, and either it is the one in use or it is
stored. -/
theorem handleHostnameSet_ok {d d' : Device} {query : Query} {answers : Answers}
    (ok : handleHostnameSet d query answers = (d', none)) :
    ∃ name, query "val" = some name ∧ isValidHostname name = true ∧
      ((name = d.hostname ∧ d' = d) ∨
        (name ≠ d.hostname ∧ d' = { d with stored := some name })) := by
  unfold handleHostnameSet at ok
  split at ok
  · cases ok
  · rename_i val given
    refine ⟨val, given, ?_⟩
    split at ok
    · cases ok
    · rename_i valid
      have valid' : isValidHostname val = true := by simpa using valid
      refine ⟨valid', ?_⟩
      split at ok
      · rename_i same
        exact .inl ⟨same, (congrArg Prod.fst ok).symm⟩
      · rename_i other
        repeat' split at ok
        · cases ok
        · cases ok
        · exact .inr ⟨other, (congrArg Prod.fst ok).symm⟩

theorem handleHostnameSet_error {d d' : Device} {query : Query} {answers : Answers} {text : String}
    (error : handleHostnameSet d query answers = (d', some text)) : d' = d := by
  unfold handleHostnameSet at error
  repeat' split at error
  all_goals
    cases error
    try rfl

/-! ## Requests and reboots -/

inductive Action
  | post (query : Query)
  | reboot

/-- One step, in which NVS does what it is told. -/
def step (d : Device) : Action → Device
  | .post query => (handleHostnameSet d query {}).1
  | .reboot => reboot d

def run (d : Device) (actions : List Action) : Device := actions.foldl step d

/-- The name that a step is answered ok for. -/
def accepted (d : Device) : Action → Option String
  | .post query => if (handleHostnameSet d query {}).2 = none then query "val" else none
  | .reboot => none

/-- The last request of a run that is answered ok: the device it finds, and its name. -/
def lastAccepted (d : Device) : List Action → Option (Device × String)
  | [] => none
  | action :: rest =>
      match lastAccepted (step d action) rest with
      | some last => some last
      | none => (accepted d action).map fun name => (d, name)

/-- NVS has this name, or none and it is the default. -/
def Restores (d : Device) (name : String) : Prop := d.stored.getD defaultHostname = name

instance (d : Device) (name : String) : Decidable (Restores d name) :=
  inferInstanceAs (Decidable (_ = _))

/-- A name that the loader lets through. -/
def ValidStored (d : Device) : Prop := ∀ name, d.stored = some name → isValidHostname name = true

theorem ValidStored.step {d : Device} (valid : ValidStored d) (action : Action) :
    ValidStored (step d action) := by
  cases action with
  | reboot => exact valid
  | post query =>
      show ValidStored (handleHostnameSet d query {}).1
      cases answer : handleHostnameSet d query {} with
      | mk d' error =>
          cases error with
          | some text =>
              rw [handleHostnameSet_error answer]
              exact valid
          | none =>
              obtain ⟨name, -, isValid, ⟨-, rfl⟩ | ⟨-, rfl⟩⟩ := handleHostnameSet_ok answer
              · exact valid
              · rintro _ ⟨⟩
                exact isValid

theorem ValidStored.run {d : Device} (valid : ValidStored d) (actions : List Action) :
    ValidStored (run d actions) := by
  induction actions generalizing d with
  | nil => exact valid
  | cons action rest ih => exact ih (valid.step action)

/-- The loader gives what is stored. -/
theorem ValidStored.applied {d : Device} (valid : ValidStored d) :
    applyHostnameFromNvs d.stored = d.stored.getD defaultHostname := by
  cases stored : d.stored with
  | none => rfl
  | some name => exact if_pos (valid name stored)

/-- A step that accepts no name leaves NVS as it is. -/
theorem stored_of_not_accepted {d : Device} {action : Action} (none : accepted d action = none) :
    (step d action).stored = d.stored := by
  cases action with
  | reboot => rfl
  | post query =>
      simp only [accepted] at none
      cases answer : handleHostnameSet d query {} with
      | mk d' error =>
          cases error with
          | none =>
              obtain ⟨name, given, _⟩ := handleHostnameSet_ok answer
              simp [answer, given] at none
          | some text =>
              have same : d' = d := handleHostnameSet_error answer
              simp [step, answer, same]

/-- A step that accepts a name makes NVS have that name, unless the name is the one in use and
NVS has another. -/
theorem restores_of_accepted {d : Device} {action : Action} {name : String}
    (some : accepted d action = some name) :
    Restores (step d action) name ↔ (name = d.hostname → Restores d name) := by
  cases action with
  | reboot => cases some
  | post query =>
      simp only [accepted] at some
      split at some
      case isFalse => cases some
      rename_i ok
      have answer : handleHostnameSet d query {} = (step d (.post query), none) := Prod.ext rfl ok
      obtain ⟨name', given, -, ⟨same, stays⟩ | ⟨other, stores⟩⟩ := handleHostnameSet_ok answer
      · rw [given, Option.some.injEq] at some
        subst some
        rw [stays]
        exact ⟨fun restores _ => restores, fun imp => imp same⟩
      · rw [given, Option.some.injEq] at some
        subst some
        rw [stores]
        refine ⟨fun _ same => absurd same other, fun _ => ?_⟩
        rfl

/-- What NVS has after a run: the name of the last accepted request if that request did not
find its name in use and another one stored, else what it had before. -/
theorem stored_run (d : Device) (actions : List Action) :
    (lastAccepted d actions = none → (run d actions).stored = d.stored) ∧
      ∀ before name, lastAccepted d actions = some (before, name) →
        (Restores (run d actions) name ↔ (name = before.hostname → Restores before name)) := by
  induction actions generalizing d with
  | nil => exact ⟨fun _ => rfl, fun _ _ last => nomatch last⟩
  | cons action rest ih =>
      obtain ⟨unchanged, changed⟩ := ih (step d action)
      cases later : lastAccepted (step d action) rest with
      | some last =>
          simp only [lastAccepted, later]
          refine ⟨nofun, ?_⟩
          rintro before name ⟨⟩
          exact changed before name later
      | none =>
          have same : (run d (action :: rest)).stored = (step d action).stored := unchanged later
          simp only [lastAccepted, later, Option.map_eq_none_iff, Option.map_eq_some_iff]
          constructor
          · intro none
            rw [same, stored_of_not_accepted none]
          · rintro before name ⟨_, some, ⟨⟩⟩
            rw [← restores_of_accepted some]
            unfold Restores
            rw [same]

/-! ## The last accepted name -/

/-- **After which runs the last name wins.** From a device with nothing stored, the name in use
after a run and a reboot is the last accepted one, or the default if there was none, exactly if
the last accepted request did not find its name in use and another one stored. -/
theorem last_hostname_wins (actions : List Action) :
    (run {} (actions ++ [.reboot])).hostname =
        ((lastAccepted {} actions).map Prod.snd).getD defaultHostname ↔
      ∀ before name, lastAccepted {} actions = some (before, name) →
        name = before.hostname → Restores before name := by
  have valid : ValidStored (run {} actions) := by
    apply ValidStored.run
    intro name stored
    cases stored
  have booted : (run {} (actions ++ [.reboot])).hostname =
      (run {} actions).stored.getD defaultHostname := by
    rw [← valid.applied]
    simp [run, step, reboot]
  obtain ⟨unchanged, changed⟩ := stored_run {} actions
  rw [booted]
  cases last : lastAccepted {} actions with
  | none =>
      rw [unchanged last]
      exact ⟨fun _ _ _ none => (nomatch none), fun _ => rfl⟩
  | some found =>
      have wins : Restores (run {} actions) found.2 ↔ _ := changed found.1 found.2 last
      simp only [Option.map_some, Option.getD_some]
      constructor
      · rintro restores before name ⟨⟩
        exact wins.mp restores
      · intro stores
        exact wins.mpr (stores _ _ rfl)

/-- Another name is posted, and then the default one again: both are answered ok, and after the
reboot the first one is in use. -/
theorem default_posted_again :
    let posts : List Action := [.post fun _ => some "attic", .post fun _ => some "nimble-proxy"]
    (lastAccepted {} posts).map Prod.snd = some "nimble-proxy" ∧
      (run {} (posts ++ [.reboot])).hostname = "attic" := by
  decide +kernel

end NimbleProxy.Api.Hostname
