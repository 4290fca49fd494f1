/-
# Theory.KeyValue -- a key-value store and what is cached of it

A program keeps its settings under keys of a store, reads them into memory when it
starts, and afterwards changes both together. The memory is as good as the store if at
any moment each part of it is what would be read (`Coherent`).

A part is changed together with its own keys. Its own keys have to lead back to what is
in memory; that nothing else has changed is the same argument for all parts. A reader
depends on the keys it looks at (`ReadsOnly`), a change of the store concerns some keys
(`DiffersIn`), and where the two have no key in common the reader sees nothing
(`ReadsOnly.frame`). `Coherent.step` puts this together.

A store can also be what a program makes of a list of entries: `Mirrors` says that it has
these entries and no others. `putAll` brings that about in a store that has no other
keys, and `eraseAll` empties such a store; a single `put` or `erase` follows a change of
one entry.
-/
import Mathlib.Data.List.Basic
import Mathlib.Logic.Function.Basic

namespace NimbleProxy.Theory.KeyValue

set_option autoImplicit false

universe u v w

abbrev Store (Key : Type u) (Value : Type v) := Key → Option Value

variable {Key : Type u} {Value : Type v}

/-- A write, which is made only if it succeeds. -/
def Store.trySet [DecidableEq Key] (store : Store Key Value) (succeeds : Bool) (key : Key)
    (value : Value) : Store Key Value :=
  if succeeds then Function.update store key (some value) else store

/-! ## What a reader depends on and what a write changes -/

/-- `read` depends on what the store has under `keys`, and on nothing else. -/
def ReadsOnly {α : Type w} (keys : List Key) (read : Store Key Value → α) : Prop :=
  ∀ s t : Store Key Value, (∀ key ∈ keys, s key = t key) → read s = read t

/-- `t` differs from `s` at most under `keys`. -/
def DiffersIn (keys : List Key) (s t : Store Key Value) : Prop :=
  ∀ key, key ∉ keys → t key = s key

variable {keys keys' : List Key} {s t u : Store Key Value}

theorem DiffersIn.trans (first : DiffersIn keys s t) (second : DiffersIn keys t u) :
    DiffersIn keys s u :=
  fun key other => (second key other).trans (first key other)

theorem differsIn_trySet [DecidableEq Key] (s : Store Key Value) (succeeds : Bool) {key : Key}
    (value : Value) (own : key ∈ keys) : DiffersIn keys s (s.trySet succeeds key value) := by
  intro key' elsewhere
  have other : key' ≠ key := by
    rintro rfl
    exact elsewhere own
  unfold Store.trySet
  split
  · exact Function.update_of_ne other (some value) s
  · rfl

/-- **The frame rule.** -/
theorem ReadsOnly.frame {α : Type w} {read : Store Key Value → α} (reads : ReadsOnly keys read)
    (differs : DiffersIn keys' s t) (apart : keys.Disjoint keys') : read t = read s :=
  reads t s fun key mem => differs key fun mem' => apart mem mem'

/-! ## Memory and store -/

section Coherent

variable {ι : Type*} {α : ι → Type w} {Ram : Type*} {view : ∀ i, Ram → α i}
  {read : ∀ i, Store Key Value → α i} {ram ram' : Ram}

/-- Every part of the memory is what is read from the store. -/
def Coherent (view : ∀ i, Ram → α i) (read : ∀ i, Store Key Value → α i) (ram : Ram)
    (store : Store Key Value) : Prop :=
  ∀ i, view i ram = read i store

/-- One part and its keys are changed. -/
theorem Coherent.step (coherent : Coherent view read ram s) {keys : ι → List Key}
    (reads : ∀ i, ReadsOnly (keys i) (read i)) (apart : ∀ i j, i ≠ j → (keys i).Disjoint (keys j))
    (i : ι) (same : ∀ j, j ≠ i → view j ram' = view j ram) (differs : DiffersIn (keys i) s t)
    (own : view i ram' = read i t) : Coherent view read ram' t := by
  intro j
  by_cases this : j = i
  · subst this
    exact own
  · rw [same j this, coherent j]
    exact ((reads j).frame differs (apart j i this)).symm

end Coherent

/-! ## A store that mirrors entries -/

section Mirrors

variable [DecidableEq Key] {entries entries' : List (Key × Value)} {key : Key} {value : Value}

def Store.put (store : Store Key Value) (key : Key) (value : Value) : Store Key Value :=
  Function.update store key (some value)

def Store.erase (store : Store Key Value) (key : Key) : Store Key Value :=
  Function.update store key none

def Store.putAll (store : Store Key Value) (entries : List (Key × Value)) : Store Key Value :=
  entries.foldl (fun store entry => store.put entry.1 entry.2) store

def Store.eraseAll (store : Store Key Value) (keys : List Key) : Store Key Value :=
  keys.foldl Store.erase store

/-- The store has these entries and no others. -/
def Mirrors (store : Store Key Value) (entries : List (Key × Value)) : Prop :=
  ∀ key value, store key = some value ↔ (key, value) ∈ entries

/-- The store has no keys but these. -/
def Within (store : Store Key Value) (keys : List Key) : Prop :=
  ∀ key, store key ≠ none → key ∈ keys

/-- No two entries disagree about a key. -/
def Functional (entries : List (Key × Value)) : Prop :=
  ∀ key value value', (key, value) ∈ entries → (key, value') ∈ entries → value = value'

omit [DecidableEq Key] in
theorem Mirrors.within (mirrors : Mirrors s entries) : Within s (entries.map Prod.fst) := by
  intro key present
  obtain ⟨value, held⟩ := Option.ne_none_iff_exists'.mp present
  exact List.mem_map_of_mem ((mirrors key value).mp held)

theorem eraseAll_apply (s : Store Key Value) (keys : List Key) (key : Key) :
    s.eraseAll keys key = if key ∈ keys then none else s key := by
  induction keys generalizing s with
  | nil => rfl
  | cons k rest ih =>
      rw [Store.eraseAll, List.foldl_cons, ← Store.eraseAll, ih]
      by_cases same : key = k
      · simp [same, Store.erase]
      · simp [same, Store.erase]

theorem Within.put (within : Within s keys) (own : key ∈ keys')
    (kept : ∀ k ∈ keys, k ∈ keys') (value : Value) : Within (s.put key value) keys' := by
  intro k present
  by_cases same : k = key
  · exact same ▸ own
  · rw [Store.put, Function.update_of_ne same] at present
    exact kept k (within k present)

theorem Within.erase (within : Within s keys) (kept : ∀ k ∈ keys, k ≠ key → k ∈ keys') :
    Within (s.erase key) keys' := by
  intro k present
  by_cases same : k = key
  · rw [same, Store.erase, Function.update_self] at present
    exact absurd rfl present
  · rw [Store.erase, Function.update_of_ne same] at present
    exact kept k (within k present) same

/-- **Removing all keys.** -/
theorem Within.eraseAll (within : Within s keys) (key : Key) : s.eraseAll keys key = none := by
  rw [eraseAll_apply]
  split
  · rfl
  · rename_i absent
    by_contra present
    exact absent (within key present)

theorem putAll_of_notMem (s : Store Key Value) (absent : key ∉ entries.map Prod.fst) :
    s.putAll entries key = s key := by
  induction entries generalizing s with
  | nil => rfl
  | cons entry rest ih =>
      rw [List.map_cons, List.mem_cons, not_or] at absent
      rw [Store.putAll, List.foldl_cons, ← Store.putAll, ih _ absent.2]
      exact Function.update_of_ne absent.1 _ _

theorem putAll_of_mem (s : Store Key Value) (functional : Functional entries)
    (mem : (key, value) ∈ entries) : s.putAll entries key = some value := by
  induction entries generalizing s with
  | nil => cases mem
  | cons entry rest ih =>
      rw [Store.putAll, List.foldl_cons, ← Store.putAll]
      have tail : Functional rest := fun k v w left right =>
        functional k v w (List.mem_cons_of_mem _ left) (List.mem_cons_of_mem _ right)
      by_cases later : key ∈ rest.map Prod.fst
      · obtain ⟨⟨_, value'⟩, mem', rfl⟩ := List.mem_map.mp later
        have same := functional _ value value' mem (List.mem_cons_of_mem _ mem')
        exact ih _ tail (same ▸ mem')
      · rw [putAll_of_notMem _ later]
        rcases List.mem_cons.mp mem with here | mem'
        · rw [← here]
          exact Function.update_self ..
        · exact absurd (List.mem_map_of_mem mem') later

/-- **Writing all entries.** -/
theorem Within.mirrors_putAll (within : Within s (entries.map Prod.fst))
    (functional : Functional entries) : Mirrors (s.putAll entries) entries := by
  intro key value
  refine ⟨fun held => ?_, putAll_of_mem s functional⟩
  by_cases known : key ∈ entries.map Prod.fst
  · obtain ⟨⟨_, value'⟩, mem, rfl⟩ := List.mem_map.mp known
    rw [putAll_of_mem s functional mem] at held
    cases held
    exact mem
  · rw [putAll_of_notMem s known] at held
    exact absurd (within key (by simp [held])) known

/-- **An entry is added, or replaces the one with its key.** -/
theorem Mirrors.put (mirrors : Mirrors s entries)
    (changed : ∀ k v, (k, v) ∈ entries' ↔ (k = key ∧ v = value) ∨ (k ≠ key ∧ (k, v) ∈ entries)) :
    Mirrors (s.put key value) entries' := by
  intro k v
  rw [changed]
  by_cases same : k = key
  · subst same
    simp [Store.put, eq_comm]
  · simp [Store.put, same, mirrors k v]

/-- **The entry of a key is dropped.** -/
theorem Mirrors.erase (mirrors : Mirrors s entries)
    (changed : ∀ k v, (k, v) ∈ entries' ↔ k ≠ key ∧ (k, v) ∈ entries) :
    Mirrors (s.erase key) entries' := by
  intro k v
  rw [changed]
  by_cases same : k = key
  · subst same
    simp [Store.erase]
  · simp [Store.erase, same, mirrors k v]

end Mirrors

end NimbleProxy.Theory.KeyValue
