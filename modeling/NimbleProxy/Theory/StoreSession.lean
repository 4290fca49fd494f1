/-
# Theory.StoreSession -- writes to a store that stop at the first failure

A session opens a store, sets some keys one after the other, and commits. It goes on as
long as every call succeeds. What has been set and not committed may stay or not, for each
key. After a session that has failed, the store is the one before exactly if what stays was
there already (`session_eq_self_iff`).

An attempt does the same and does not look at the answers. A write that does not land leaves
what was there (`attempt_of_mem`).
-/
import Mathlib.Data.List.Nodup
import Mathlib.Data.List.TakeWhile
import NimbleProxy.Theory.KeyValue

namespace NimbleProxy.Theory.KeyValue

set_option autoImplicit false

universe u v

variable {Key : Type u} {Value : Type v}

/-- What the calls of a session answer. -/
structure Outcome (Key : Type u) where
  opens : Bool := true
  sets : Key → Bool := fun _ => true
  commits : Bool := true
  /-- a value that was set and not committed stays -/
  keeps : Key → Bool := fun _ => true

variable (outcome : Outcome Key) (writes : List (Key × Value))

/-- Every call succeeds. -/
def Outcome.succeeds : Bool :=
  outcome.opens && writes.all (fun write => outcome.sets write.1) && outcome.commits

/-- The writes up to the first that fails. -/
def Outcome.made : List (Key × Value) :=
  if outcome.opens then writes.takeWhile fun write => outcome.sets write.1 else []

/-- The writes of which the values are there in the end. -/
def Outcome.lasting : List (Key × Value) :=
  if outcome.succeeds writes then writes
  else (outcome.made writes).filter fun write => outcome.keeps write.1

/-- The store after a session, and whether it has succeeded. -/
def Store.session [DecidableEq Key] (store : Store Key Value) : Store Key Value × Bool :=
  (store.putAll (outcome.lasting writes), outcome.succeeds writes)

/-- A write of an attempt is there in the end. -/
def Outcome.lands (key : Key) : Bool :=
  outcome.opens && outcome.sets key && (outcome.commits || outcome.keeps key)

/-- The store after writes whose answers are not looked at. -/
def Store.attempt [DecidableEq Key] (store : Store Key Value) : Store Key Value :=
  store.putAll (writes.filter fun write => outcome.lands write.1)

section Session

variable {outcome writes}

theorem lasting_sublist : (outcome.lasting writes).Sublist writes := by
  unfold Outcome.lasting Outcome.made
  split
  · exact List.Sublist.refl _
  apply List.filter_sublist.trans
  split
  · exact (List.takeWhile_prefix _).sublist
  · exact List.nil_sublist _

theorem functional_of_nodup {entries : List (Key × Value)} (nodup : (entries.map Prod.fst).Nodup) :
    Functional entries := by
  intro key value value' left right
  have same := List.inj_on_of_nodup_map nodup left right rfl
  exact congrArg Prod.snd same

variable [DecidableEq Key] {store : Store Key Value} {entries : List (Key × Value)}

/-- Writing what is there already changes nothing, and nothing else does. -/
theorem putAll_eq_self_iff (functional : Functional entries) :
    store.putAll entries = store ↔ ∀ entry ∈ entries, store entry.1 = some entry.2 := by
  refine ⟨fun same entry mem => ?_, fun there => funext fun key => ?_⟩
  · rw [← same]
    exact putAll_of_mem store functional mem
  · by_cases known : key ∈ entries.map Prod.fst
    · obtain ⟨entry, mem, rfl⟩ := List.mem_map.mp known
      rw [putAll_of_mem store functional mem, there entry mem]
    · exact putAll_of_notMem store known

/-- **A session that changes nothing.** -/
theorem session_eq_self_iff (nodup : (writes.map Prod.fst).Nodup) :
    (store.session outcome writes).1 = store ↔
      ∀ write ∈ outcome.lasting writes, store write.1 = some write.2 :=
  putAll_eq_self_iff (functional_of_nodup (nodup.sublist (lasting_sublist.map _)))

omit [DecidableEq Key] in
theorem lasting_of_succeeds (succeeds : outcome.succeeds writes = true) :
    outcome.lasting writes = writes :=
  if_pos succeeds

/-- A key that is not written. -/
theorem session_of_notMem {key : Key} (other : key ∉ writes.map Prod.fst) :
    (store.session outcome writes).1 key = store key :=
  putAll_of_notMem store fun mem => other ((lasting_sublist.map _).subset mem)

/-- What an attempt leaves at a key that is written. -/
theorem attempt_of_mem (nodup : (writes.map Prod.fst).Nodup) {write : Key × Value}
    (mem : write ∈ writes) :
    store.attempt outcome writes write.1 =
      if outcome.lands write.1 then some write.2 else store write.1 := by
  have nodup' : ((writes.filter fun write => outcome.lands write.1).map Prod.fst).Nodup :=
    nodup.sublist (List.filter_sublist.map _)
  split
  · rename_i lands
    exact putAll_of_mem store (functional_of_nodup nodup') (List.mem_filter.mpr ⟨mem, lands⟩)
  · rename_i lost
    refine putAll_of_notMem store fun known => lost ?_
    obtain ⟨other, mem', same⟩ := List.mem_map.mp known
    exact same ▸ (List.mem_filter.mp mem').2

theorem attempt_of_notMem {key : Key} (other : key ∉ writes.map Prod.fst) :
    store.attempt outcome writes key = store key :=
  putAll_of_notMem store fun mem => other ((List.filter_sublist.map _).subset mem)

end Session

end NimbleProxy.Theory.KeyValue
