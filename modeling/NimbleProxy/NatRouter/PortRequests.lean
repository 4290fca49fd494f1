/-
# NatRouter.PortRequests -- what a request does to the table of rules, and what a reboot keeps

`portmap_post` answers a request ok or with an error. With an error nothing has happened
(`portmapPost_error`). Else the rule of one key is the one that was asked for, or is gone,
and the rules of all other keys are the same. Whatever has happened, the copy in NVS is
the table as long as NVS takes what it is told (`Kept`), so that a reboot finds the same
rules.

That no two rules have the same key is part of a `Table`.
-/
import NimbleProxy.NatRouter.PortMap

namespace NimbleProxy.NatRouter.PortMap

open NimbleProxy.Theory ActionSystem KeyValue PortTable
open NimbleProxy.Api.Settings (Query)

set_option autoImplicit false

/-- The rule of a key. -/
def ruleOf (table : Table) (key : Key) : Option PortmapEntry :=
  table.rules.find? fun rule => rule.key == key

/-- The rules of the other keys are what they were. -/
def OthersSame (key : Key) (before after : Table) : Prop :=
  ∀ other, other ≠ key → ruleOf after other = ruleOf before other

section Rules

variable {table table' : Table} {key : Key} {rule : PortmapEntry}

theorem ruleOf_eq_some_iff :
    ruleOf table key = some rule ↔ rule ∈ table.rules ∧ rule.key = key := by
  constructor
  · intro found
    exact ⟨List.mem_of_find?_eq_some found, by simpa using List.find?_some found⟩
  · rintro ⟨own, rfl⟩
    cases found : ruleOf table rule.key with
    | none =>
        have absent := List.find?_eq_none.mp found rule own
        simp at absent
    | some other =>
        -- two rules with one key stand at one place
        have same : other.key = rule.key := by simpa using List.find?_some found
        obtain ⟨i, at_i, valid⟩ := Table.mem_rules.mp own
        obtain ⟨j, at_j, valid'⟩ := Table.mem_rules.mp (List.mem_of_find?_eq_some found)
        obtain rfl := table.distinct j i _ _ at_j at_i valid' valid same
        rw [at_i] at at_j
        rw [at_j]

theorem ruleOf_eq_none_iff : ruleOf table key = none ↔ ∀ rule ∈ table.rules, rule.key ≠ key := by
  simp [ruleOf]

/-- The rules of a key decide what is found there. -/
theorem ruleOf_congr (same : ∀ rule : PortmapEntry, rule.key = key →
    (rule ∈ table'.rules ↔ rule ∈ table.rules)) : ruleOf table' key = ruleOf table key := by
  cases found : ruleOf table key with
  | none =>
      rw [ruleOf_eq_none_iff] at found ⊢
      exact fun rule own named => found rule ((same rule named).mp own) named
  | some rule =>
      rw [ruleOf_eq_some_iff] at found ⊢
      exact ⟨(same rule found.2).mpr found.1, found.2⟩

end Rules

/-! ## What NVS has -/

/-- The table is what `load_portmap` would make of NVS. -/
structure Kept (portmapMax : Nat) (s : State) : Prop where
  own : ∀ stored ∈ s.storedTable, stored.entries.length = portmapMax
  coherent : s.started = true → s.table = loadPortmap s portmapMax

/-- NVS takes what it is told. -/
def Saves : Action → Prop
  | .portmapPost _ saved => saved = true
  | _ => True

instance : (a : Action) → Decidable (Saves a)
  | .portmapPost _ saved => inferInstanceAs (Decidable (saved = true))
  | .reboot | .start _ | .natPost .. | .staGotIp _ | .pauseForOta | .resumeAfterOta => isTrue trivial

section Kept

variable {portmapMax : Nat} {aton : String → Option UInt32} {s t : State} {key : Key}
  {rule : PortmapEntry}

theorem length_loadPortmap (own : ∀ stored ∈ s.storedTable, stored.entries.length = portmapMax) :
    (loadPortmap s portmapMax).entries.length = portmapMax := by
  unfold loadPortmap
  split
  · exact List.length_replicate
  · rename_i stored some_
    rw [if_pos (own stored some_)]
    exact own stored some_

/-- Neither the table nor NVS has changed. -/
theorem Kept.congr (kept : Kept portmapMax s) (table : t.table = s.table)
    (stored : t.storedTable = s.storedTable) (running : t.started = true → s.started = true) :
    Kept portmapMax t := by
  refine ⟨fun blob some_ => kept.own blob (stored ▸ some_), fun on => ?_⟩
  rw [table, kept.coherent (running on), loadPortmap, loadPortmap, stored]

/-- A table of the right size has been saved. -/
theorem kept_saved (size : t.table.entries.length = portmapMax)
    (stored : t.storedTable = some t.table) : Kept portmapMax t := by
  refine ⟨fun blob some_ => ?_, fun _ => ?_⟩
  · rw [stored] at some_
    cases some_
    exact size
  · rw [loadPortmap, stored]
    exact (if_pos size).symm

theorem Kept.size (kept : Kept portmapMax s) (started : s.started = true) :
    s.table.entries.length = portmapMax := by
  rw [kept.coherent started]
  exact length_loadPortmap kept.own

theorem kept_deleteRule (kept : Kept portmapMax s) (started : s.started = true) (key : Key) :
    Kept portmapMax (deleteRule s key true) := by
  unfold deleteRule
  split
  · exact kept
  · rename_i i _
    refine kept_saved ?_ rfl
    show (s.table.invalidate i).entries.length = portmapMax
    rw [Table.invalidate, List.length_modify]
    exact kept.size started

theorem kept_addRule (kept : Kept portmapMax s) (started : s.started = true) (rule : PortmapEntry) :
    Kept portmapMax (addRule s rule true).1 := by
  unfold addRule
  split
  · exact kept
  · rename_i i found
    have size : (s.table.put rule i found).entries.length = portmapMax := by
      rw [Table.put, List.length_set]
      exact kept.size started
    dsimp only
    split
    · exact kept_saved size rfl
    · exact kept_saved size rfl

theorem kept_portmapPost (kept : Kept portmapMax s) (started : s.started = true)
    (query : Option Query) : Kept portmapMax (portmapPost s aton query true).1 := by
  rcases portmapPost_cases s aton query true with
    ⟨same, _⟩ | ⟨key, deleted, _⟩ | ⟨rule, _, _, _, added⟩
  · rw [same]
    exact kept
  · rw [deleted]
    exact kept_deleteRule kept started key
  · rw [added]
    exact kept_addRule kept started rule

theorem Kept.apUp (kept : Kept portmapMax s) : Kept portmapMax (apUp s) := by
  rw [apUp_eq]
  refine kept.congr (applyPortmap_table _) ?_ fun on => by simpa using on
  unfold applyPortmap
  split <;> rfl

theorem Kept.apDown (kept : Kept portmapMax s) : Kept portmapMax (apDown s) :=
  kept.congr rfl rfl id

theorem kept_start (own : ∀ stored ∈ s.storedTable, stored.entries.length = portmapMax)
    (ip : Option UInt32) : Kept portmapMax (start s portmapMax ip) := by
  have loaded : Kept portmapMax { s with
      table := loadPortmap s portmapMax
      enabled := s.storedEnabled.getD 1 != 0
      staIp := ip.getD s.staIp
      started := true } := ⟨own, fun _ => rfl⟩
  unfold start
  dsimp only
  split
  · exact loaded.apUp
  · exact loaded

theorem kept_step (kept : Kept portmapMax s) (a : Action) (guard : Guard s a) (saves : Saves a) :
    Kept portmapMax (effect s portmapMax aton a) := by
  cases a with
  | reboot => exact ⟨kept.own, nofun⟩
  | start ip => exact kept_start kept.own ip
  | portmapPost query saved =>
      obtain rfl : saved = true := saves
      exact kept_portmapPost kept guard query
  | natPost query saved =>
      simp only [effect]
      rcases natPost_cases s query saved with same | ⟨stored, enabled | disabled⟩
      · rw [same]
        exact kept
      · rw [enabled]
        exact kept.apUp.congr rfl rfl id
      · rw [disabled]
        exact kept.apDown.congr rfl rfl id
  | staGotIp ip =>
      simp only [effect, onStaGotIp]
      split
      · exact kept.congr rfl rfl id
      · split
        · exact kept.congr rfl rfl id
        · refine kept.congr (applyPortmap_table _) ?_ fun on => by simpa [removeAllLive] using on
          unfold applyPortmap
          split <;> rfl
  | pauseForOta =>
      simp only [effect, pauseForOta]
      split
      · have paused : Kept portmapMax { s with otaResumeAp := s.enabled } := kept.congr rfl rfl id
        exact paused.apDown
      · exact kept.congr rfl rfl id
  | resumeAfterOta =>
      simp only [effect, resumeAfterOta]
      split
      · exact kept.apUp.congr rfl rfl id
      · exact kept.congr rfl rfl id

theorem kept_reachable {storedTable : Option Table} {storedEnabled : Option UInt8}
    (own : ∀ stored ∈ storedTable, stored.entries.length = portmapMax)
    (path : (system portmapMax aton storedTable storedEnabled).ReachableWhen (fun _ => Saves) s) :
    Kept portmapMax s := by
  refine ReachableFrom.invariant (P := Kept portmapMax) ?_ path ⟨own, nofun⟩
  intro s a kept guard saves
  exact kept_step kept a guard saves

/-- NVS has the table, or nothing as long as there are no rules. -/
theorem Kept.stored (kept : Kept portmapMax s) (started : s.started = true) :
    match s.storedTable with
    | some stored => stored = s.table
    | none => s.table.rules = [] := by
  have loaded := kept.coherent started
  unfold loadPortmap at loaded
  cases some_ : s.storedTable with
  | none =>
      rw [some_] at loaded
      show s.table.rules = []
      rw [loaded]
      exact Table.rules_zero portmapMax
  | some stored =>
      rw [some_] at loaded
      show stored = s.table
      rw [loaded]
      exact (if_pos (kept.own stored some_)).symm

theorem Kept.reboot (kept : Kept portmapMax s) (started : s.started = true) (ip : Option UInt32) :
    (start (reboot s portmapMax) portmapMax ip).table = s.table := by
  have loaded : loadPortmap (PortMap.reboot s portmapMax) portmapMax = s.table :=
    (kept.coherent started).symm
  unfold start
  dsimp only
  split
  · rw [apUp_eq, applyPortmap_table]
    exact loaded
  · exact loaded

end Kept

/-! ## What a request does -/

section Requests

variable {s : State} {aton : String → Option UInt32} {query : Query} {key : Key}
  {rule : PortmapEntry}

/-- With an error, nothing has happened. -/
theorem portmapPost_error {query : Option Query} {saved : Bool}
    (error : (portmapPost s aton query saved).2 ≠ none) :
    (portmapPost s aton query saved).1 = s := by
  unfold portmapPost at error ⊢
  cases query with
  | none => rfl
  | some query =>
      cases read : readRequest aton query with
      | error text => simp only [read]
      | ok request =>
          cases request with
          | delete key => simp [read] at error
          | add rule =>
              simp only [read] at error ⊢
              unfold addRule at error ⊢
              split
              · rfl
              · rename_i i found
                -- a rule that has found its slot is answered ok
                split at error
                · rename_i full
                  exact absurd (found.symm.trans full) (Option.some_ne_none i)
                · exact absurd rfl error

theorem deleteRule_rules (s : State) (key : Key) (saved : Bool) :
    ruleOf (deleteRule s key saved).table key = none ∧
      OthersSame key s.table (deleteRule s key saved).table := by
  unfold deleteRule
  split
  · rename_i absent
    refine ⟨ruleOf_eq_none_iff.mpr fun rule own => ?_, fun other _ => rfl⟩
    obtain ⟨j, at_j, valid⟩ := Table.mem_rules.mp own
    exact Table.find_none absent (List.mem_of_getElem? at_j) valid
  · rename_i i found
    simp only [savePortmap_table]
    refine ⟨ruleOf_eq_none_iff.mpr fun rule own => ?_, fun other differs => ruleOf_congr ?_⟩
    · exact ((Table.mem_rules_invalidate found).mp own).1
    · rintro rule rfl
      rw [Table.mem_rules_invalidate found]
      exact and_iff_right differs

theorem addRule_rules (valid : rule.valid = true) (saved : Bool)
    (room : s.table.slot rule.key ≠ none) :
    ruleOf (addRule s rule saved).1.table rule.key = some rule ∧
      OthersSame rule.key s.table (addRule s rule saved).1.table := by
  rcases addRule_cases s rule saved with ⟨full, _⟩ | ⟨i, found, table, _⟩
  · exact absurd full room
  · rw [table]
    refine ⟨ruleOf_eq_some_iff.mpr ⟨(Table.mem_rules_put found valid).mpr (.inl rfl), rfl⟩, ?_⟩
    intro other differs
    apply ruleOf_congr
    rintro entry rfl
    rw [Table.mem_rules_put found valid]
    constructor
    · rintro (rfl | ⟨_, own⟩)
      · exact absurd rfl differs
      · exact own
    · exact fun own => .inr ⟨differs, own⟩

theorem addRule_answer (s : State) (rule : PortmapEntry) (saved : Bool) :
    (addRule s rule saved).2 = none ↔ s.table.slot rule.key ≠ none := by
  unfold addRule
  split
  · rename_i full
    simp [full]
  · rename_i i found
    simp [found]

end Requests

/-- **The table of rules.** NVS takes what it is told, and had nothing or a table of this size.
Then in every run the valid entries have different keys, NVS has the table, and a reboot finds
the same. A request that is answered with an error has changed nothing. One that adds a rule is
answered ok if there is a slot for it, and then this is the rule of its key; one that deletes a
key is answered ok, and then the key has no rule. The rules of the other keys stay the same. -/
theorem portmap_requests (portmapMax : Nat) (aton : String → Option UInt32)
    (storedTable : Option Table) (storedEnabled : Option UInt8) (s : State)
    (own : ∀ stored ∈ storedTable, stored.entries.length = portmapMax)
    (path : (system portmapMax aton storedTable storedEnabled).ReachableWhen (fun _ => Saves) s)
    (started : s.started = true) :
    Distinct s.table.entries ∧
      (match s.storedTable with
        | some stored => stored = s.table
        | none => s.table.rules = []) ∧
      (∀ ip, (start (reboot s portmapMax) portmapMax ip).table.rules = s.table.rules) ∧
      ∀ query : Option Query,
        ((portmapPost s aton query true).2 ≠ none → (portmapPost s aton query true).1 = s) ∧
          (∀ q rule, query = some q → readRequest aton q = .ok (.add rule) →
            ((portmapPost s aton query true).2 = none ↔ s.table.slot rule.key ≠ none) ∧
              ((portmapPost s aton query true).2 = none →
                ruleOf (portmapPost s aton query true).1.table rule.key = some rule ∧
                  OthersSame rule.key s.table (portmapPost s aton query true).1.table)) ∧
          ∀ q key, query = some q → readRequest aton q = .ok (.delete key) →
            (portmapPost s aton query true).2 = none ∧
              ruleOf (portmapPost s aton query true).1.table key = none ∧
              OthersSame key s.table (portmapPost s aton query true).1.table := by
  have kept := kept_reachable own path
  refine ⟨s.table.distinct, kept.stored started, fun ip => ?_, fun query => ⟨?_, ?_, ?_⟩⟩
  · rw [kept.reboot started ip]
  · exact portmapPost_error
  · rintro q rule rfl read
    have answer : portmapPost s aton (some q) true = addRule s rule true := by
      simp only [portmapPost, read]
    rw [answer, addRule_answer]
    exact ⟨Iff.rfl, addRule_rules (readRequest_add read) true⟩
  · rintro q key rfl read
    have answer : portmapPost s aton (some q) true = (deleteRule s key true, none) := by
      simp only [portmapPost, read]
    rw [answer]
    exact ⟨rfl, deleteRule_rules s key true⟩

/-- The rule of `forward` is deleted. -/
def dropped : Query := fun key =>
  [("del", "1"), ("proto", "tcp"), ("mport", "8080")].lookup key

/-- A rule is added, deleted and added again. -/
theorem portmap_requests_network :
    ∃ s, Distinct s.table.entries ∧ ruleOf s.table (protoUdp, 53) = none ∧
      (start (reboot s 4) 4 none).table.rules = s.table.rules ∧
      s.table.rules = [⟨protoTcp, true, 8080, 80, 0x3204A8C0⟩] ∧
      ruleOf (portmapPost s someAddresses (some dropped) true).1.table (protoTcp, 8080) = none := by
  let s := network.finalFrom (fun _ => Saves) network.init
    [.start (some 0x3201A8C0), .portmapPost (some forward) true, .portmapPost (some dropped) true,
      .portmapPost (some forward) true]
  have path : network.ReachableWhen (fun _ => Saves) s :=
    network.reachable_finalFrom (fun _ => Saves) network.init _
  have fine := portmap_requests 4 someAddresses none none s nofun path (by decide +kernel)
  refine ⟨s, fine.1, by decide +kernel, fine.2.2.1 none, by decide +kernel, ?_⟩
  exact ((fine.2.2.2 (some dropped)).2.2 dropped _ rfl rfl).2.1

end NimbleProxy.NatRouter.PortMap
