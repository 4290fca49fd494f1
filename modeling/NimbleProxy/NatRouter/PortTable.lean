/-
# NatRouter.PortTable -- the table of port forwarding rules

`g_portmap` of `nat_router.cpp`: a fixed number of entries, of which some are valid. A
rule is found by protocol and external port. A new one overwrites the valid entry with
its key, or takes the first free one (`slot`), so no two valid entries have the same key;
`Table` carries that, and NVS holds nothing else. `mem_rules_put` and
`mem_rules_invalidate` say what the two changes of the table do to its rules.
-/
import NimbleProxy.Theory.KeyValue

namespace NimbleProxy.NatRouter.PortTable

open NimbleProxy.Theory.KeyValue

set_option autoImplicit false

/-! ## Entries -/

/-- `PROTO_TCP`. -/
def protoTcp : UInt8 := 6

/-- `PROTO_UDP`. -/
def protoUdp : UInt8 := 17

/-- Protocol and external port. -/
abbrev Key := UInt8 × UInt16

structure PortmapEntry where
  proto : UInt8 := 0
  valid : Bool := false
  mport : UInt16 := 0
  dport : UInt16 := 0
  daddr : UInt32 := 0
  deriving DecidableEq

def PortmapEntry.key (entry : PortmapEntry) : Key := (entry.proto, entry.mport)

/-- A mapping of lwIP. -/
structure Mapping where
  maddr : UInt32
  daddr : UInt32
  dport : UInt16
  deriving DecidableEq

def PortmapEntry.mapping (entry : PortmapEntry) (staIp : UInt32) : Mapping :=
  ⟨staIp, entry.daddr, entry.dport⟩

/-- Two valid entries have different keys. -/
def Distinct (entries : List PortmapEntry) : Prop :=
  ∀ (i j : Nat) (a b : PortmapEntry), entries[i]? = some a → entries[j]? = some b →
    a.valid = true → b.valid = true → a.key = b.key → i = j

/-- `g_portmap`. -/
structure Table where
  entries : List PortmapEntry
  distinct : Distinct entries

/-! ## The table -/

namespace Table

/-- The table after `memset`. -/
def zero (portmapMax : Nat) : Table where
  entries := List.replicate portmapMax {}
  distinct := by
    intro i j a b first _ valid
    rw [List.eq_of_mem_replicate (List.mem_of_getElem? first)] at valid
    cases valid

variable (table : Table)

def rules : List PortmapEntry := table.entries.filter (·.valid)

def keys : List Key := table.rules.map PortmapEntry.key

/-- What the rules ask of lwIP. -/
def mappings (staIp : UInt32) : List (Key × Mapping) :=
  table.rules.map fun entry => (entry.key, entry.mapping staIp)

/-- The first valid entry with this key. -/
def find (key : Key) : Option Nat :=
  table.entries.findIdx? fun entry => entry.valid && entry.key == key

/-- The slot for a rule: the one of the rule it overwrites, else a free one. -/
def slot (key : Key) : Option Nat :=
  (table.find key).or (table.entries.findIdx? fun entry => !entry.valid)

variable {table} {key : Key} {i : Nat}

theorem find_some (found : table.find key = some i) :
    ∃ entry, table.entries[i]? = some entry ∧ entry.valid = true ∧ entry.key = key := by
  obtain ⟨bound, holds, _⟩ := List.findIdx?_eq_some_iff_getElem.mp found
  rw [Bool.and_eq_true, beq_iff_eq] at holds
  exact ⟨_, List.getElem?_eq_getElem bound, holds⟩

theorem find_none (absent : table.find key = none) {entry : PortmapEntry}
    (mem : entry ∈ table.entries) (valid : entry.valid = true) : entry.key ≠ key := by
  have other := List.findIdx?_eq_none_iff.mp absent entry mem
  simpa [valid] using other

/-- Where a rule goes: there is no valid entry with its key elsewhere. -/
theorem slot_some (found : table.slot key = some i) :
    i < table.entries.length ∧
      ∀ (j : Nat) (entry : PortmapEntry), table.entries[j]? = some entry → entry.valid = true →
        (entry.key = key ∨ j = i) → entry.key = key ∧ j = i := by
  unfold slot at found
  cases own : table.find key with
  | some k =>
      rw [own, Option.some_or, Option.some.injEq] at found
      subst found
      obtain ⟨rule, at_i, valid, same⟩ := find_some own
      refine ⟨(List.getElem?_eq_some_iff.mp at_i).1, fun j entry at_j valid' which => ?_⟩
      rcases which with named | here
      · exact ⟨named, table.distinct j k entry rule at_j at_i valid' valid (named.trans same.symm)⟩
      · subst here
        rw [at_i, Option.some.injEq] at at_j
        exact ⟨at_j ▸ same, rfl⟩
  | none =>
      rw [own, Option.none_or] at found
      obtain ⟨bound, free, _⟩ := List.findIdx?_eq_some_iff_getElem.mp found
      refine ⟨bound, fun j entry at_j valid which => ?_⟩
      rcases which with named | here
      · exact absurd named (find_none own (List.mem_of_getElem? at_j) valid)
      · subst here
        rw [List.getElem?_eq_getElem bound, Option.some.injEq] at at_j
        rw [at_j, valid] at free
        cases free

/-- `g_portmap[slot] = rule`. -/
def put (table : Table) (rule : PortmapEntry) (i : Nat) (found : table.slot rule.key = some i) :
    Table where
  entries := table.entries.set i rule
  distinct := by
    have elsewhere := (slot_some found).2
    intro j k a b at_j at_k valid valid' same
    rw [List.getElem?_set] at at_j at_k
    split at at_j <;> split at at_k
    · rename_i here there
      exact here.symm.trans there
    · rename_i here there
      simp only [(slot_some found).1, if_true, Option.some.injEq] at at_j
      subst at_j
      exact here.symm.trans (elsewhere k b at_k valid' (.inl same.symm)).2.symm
    · rename_i there here
      simp only [(slot_some found).1, if_true, Option.some.injEq] at at_k
      subst at_k
      exact (elsewhere j a at_j valid (.inl same)).2.trans here
    · exact table.distinct j k a b at_j at_k valid valid' same

/-- `g_portmap[i].valid = 0`. -/
def invalidate (table : Table) (i : Nat) : Table where
  entries := table.entries.modify i fun entry => { entry with valid := false }
  distinct := by
    intro j k a b at_j at_k valid valid' same
    rw [List.getElem?_modify] at at_j at_k
    split at at_j
    · obtain ⟨c, -, rfl⟩ := Option.map_eq_some_iff.mp at_j
      cases valid
    · split at at_k
      · obtain ⟨c, -, rfl⟩ := Option.map_eq_some_iff.mp at_k
        cases valid'
      · rw [Option.map_eq_map, Option.map_id_fun'] at at_j at_k
        exact table.distinct j k a b at_j at_k valid valid' same

theorem mem_rules {entry : PortmapEntry} :
    entry ∈ table.rules ↔ ∃ j : Nat, table.entries[j]? = some entry ∧ entry.valid = true := by
  rw [rules, List.mem_filter, List.mem_iff_getElem?, exists_and_right]

theorem rules_zero (portmapMax : Nat) : (zero portmapMax).rules = [] := by
  rw [rules, List.filter_eq_nil_iff]
  intro entry own
  rw [List.eq_of_mem_replicate own]
  exact Bool.false_ne_true

theorem mem_keys : key ∈ table.keys ↔ ∃ entry ∈ table.rules, entry.key = key :=
  List.mem_map

theorem map_fst_mappings (staIp : UInt32) :
    (table.mappings staIp).map Prod.fst = table.keys := by
  rw [mappings, List.map_map]
  rfl

theorem mem_mappings {staIp : UInt32} {mapping : Mapping} :
    (key, mapping) ∈ table.mappings staIp ↔
      ∃ entry ∈ table.rules, entry.key = key ∧ entry.mapping staIp = mapping := by
  simp [mappings]

theorem functional_mappings (staIp : UInt32) : Functional (table.mappings staIp) := by
  intro key mapping mapping' mem mem'
  obtain ⟨entry, own, same, rfl⟩ := mem_mappings.mp mem
  obtain ⟨entry', own', same', rfl⟩ := mem_mappings.mp mem'
  obtain ⟨j, at_j, valid⟩ := mem_rules.mp own
  obtain ⟨k, at_k, valid'⟩ := mem_rules.mp own'
  obtain rfl := table.distinct j k _ _ at_j at_k valid valid' (same.trans same'.symm)
  rw [at_j] at at_k
  cases at_k
  rfl

/-- What `put` does to the rules. -/
theorem mem_rules_put {rule entry : PortmapEntry} (found : table.slot rule.key = some i)
    (valid : rule.valid = true) :
    entry ∈ (table.put rule i found).rules ↔
      entry = rule ∨ (entry.key ≠ rule.key ∧ entry ∈ table.rules) := by
  obtain ⟨bound, elsewhere⟩ := slot_some found
  simp only [mem_rules, put, List.getElem?_set]
  constructor
  · rintro ⟨j, at_j, valid'⟩
    split at at_j
    · simp only [Option.some.injEq] at at_j
      exact .inl at_j.symm
    · rename_i there
      refine .inr ⟨fun same => ?_, j, at_j, valid'⟩
      exact there (elsewhere j entry at_j valid' (.inl same)).2.symm
  · rintro (rfl | ⟨other, j, at_j, valid'⟩)
    · exact ⟨i, by simp [bound], valid⟩
    · have there : i ≠ j := by
        rintro rfl
        exact other (elsewhere i entry at_j valid' (.inr rfl)).1
      exact ⟨j, by rw [if_neg there, at_j], valid'⟩

/-- What `invalidate` does to the rules. -/
theorem mem_rules_invalidate {entry : PortmapEntry} (found : table.find key = some i) :
    entry ∈ (table.invalidate i).rules ↔ entry.key ≠ key ∧ entry ∈ table.rules := by
  obtain ⟨rule, at_i, valid, named⟩ := find_some found
  simp only [mem_rules, invalidate, List.getElem?_modify]
  constructor
  · rintro ⟨j, at_j, valid'⟩
    split at at_j
    · obtain ⟨c, -, rfl⟩ := Option.map_eq_some_iff.mp at_j
      cases valid'
    · rename_i there
      rw [Option.map_eq_map, Option.map_id_fun'] at at_j
      refine ⟨fun same => ?_, j, at_j, valid'⟩
      exact there (table.distinct i j _ _ at_i at_j valid valid' (named.trans same.symm))
  · rintro ⟨other, j, at_j, valid'⟩
    have there : i ≠ j := by
      rintro rfl
      rw [at_i] at at_j
      cases at_j
      exact other named
    exact ⟨j, by simp [there, at_j], valid'⟩

end Table

end NimbleProxy.NatRouter.PortTable
