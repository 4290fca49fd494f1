/-
# Theory.FifoMap -- a bounded map that forgets what came in first

A queue of keys with values, oldest first. A record of a key that is there changes its value
and nothing else; any other key comes in behind the others, and pushes the first one out if the
queue is full. So after a run of records the queue has the last keys that came in, with their
latest values (`Follows`), and a key is there unless a whole queue of others came in behind it
(`mem_keys_iff`).
-/
import Mathlib.Data.List.Dedup
import Mathlib.Data.List.DropRight
import Mathlib.Data.List.Perm.Subperm
import Mathlib.Data.List.Rotate

namespace NimbleProxy.Theory.FifoMap

set_option autoImplicit false

universe u v

variable {Key : Type u} {Value : Type v}

def keys (q : List (Key × Value)) : List Key := q.map Prod.fst

variable [DecidableEq Key]

/-- A record in a queue of at most `cap` keys. -/
def put (cap : Nat) (q : List (Key × Value)) (c : Key × Value) : List (Key × Value) :=
  if c.1 ∈ keys q then q.map fun e => if e.1 = c.1 then c else e
  else (if q.length < cap then q else q.tail) ++ [c]

def run (cap : Nat) (calls : List (Key × Value)) : List (Key × Value) := calls.foldl (put cap) []

/-- The keys that come in, from the queue `q` on. -/
def insertions (cap : Nat) (q : List (Key × Value)) : List (Key × Value) → List Key
  | [] => []
  | c :: rest => (if c.1 ∈ keys q then [] else [c.1]) ++ insertions cap (put cap q c) rest

/-- The value of the last record of a key. -/
def latest (calls : List (Key × Value)) (k : Key) : Option Value := calls.reverse.lookup k

/-- What came in behind the last `k`, the last one first. -/
def since (k : Key) (inserted : List Key) : List Key := inserted.reverse.takeWhile (· ≠ k)

/-- What the queue is after some records, of which `inserted` came in. -/
structure Follows (cap : Nat) (calls : List (Key × Value)) (q : List (Key × Value))
    (inserted : List Key) : Prop where
  last : keys q = inserted.rtake cap
  nodup : (keys q).Nodup
  values : ∀ e ∈ q, latest calls e.1 = some e.2
  recorded : ∀ k, k ∈ inserted ↔ k ∈ keys calls

/-! ## One record -/

section Step

variable {cap : Nat} {calls q : List (Key × Value)} {inserted : List Key} {c : Key × Value} {k : Key}
  {v : Value}

theorem lookup_isSome_iff_mem_keys :
    (q.lookup k).isSome ↔ k ∈ keys q := by
  rw [List.lookup_isSome_iff, keys, List.mem_map]
  constructor
  · rintro ⟨e, mem, same⟩
    exact ⟨e, mem, (beq_iff_eq.mp same).symm⟩
  · rintro ⟨e, mem, rfl⟩
    exact ⟨e, mem, beq_self_eq_true e.1⟩

theorem lookup_eq_none_of_notMem (gone : k ∉ keys q) :
    q.lookup k = none := by
  rw [← Option.not_isSome_iff_eq_none, lookup_isSome_iff_mem_keys]
  exact gone

theorem mem_of_lookup (found : q.lookup k = some v) :
    (k, v) ∈ q := by
  obtain ⟨front, back, split, -⟩ := List.lookup_eq_some_iff.mp found
  rw [split]
  exact List.mem_append_right front List.mem_cons_self

theorem insertions_append (cap : Nat) (q front back : List (Key × Value)) :
    insertions cap q (front ++ back) =
      insertions cap q front ++ insertions cap (front.foldl (put cap) q) back := by
  induction front generalizing q with
  | nil => rfl
  | cons c rest ih =>
      rw [List.cons_append, insertions, ih, insertions, List.append_assoc]
      rfl

theorem latest_self : latest (calls ++ [c]) c.1 = some c.2 := by
  rw [latest, List.reverse_concat]
  exact List.lookup_cons_self

theorem latest_of_ne (other : k ≠ c.1) : latest (calls ++ [c]) k = latest calls k := by
  rw [latest, List.reverse_concat, List.lookup_cons, beq_false_of_ne other, latest]

theorem keys_put_of_mem (there : c.1 ∈ keys q) : keys (put cap q c) = keys q := by
  rw [put, if_pos there, keys, keys, List.map_map]
  apply List.map_congr_left
  intro e _
  by_cases same : e.1 = c.1
  · simp [same]
  · simp [same]

theorem put_of_notMem (new : c.1 ∉ keys q) :
    put cap q c = (if q.length < cap then q else q.tail) ++ [c] :=
  if_neg new

/-- A key comes in only if it is not there. -/
theorem nodup_put (nodup : (keys q).Nodup) : (keys (put cap q c)).Nodup := by
  by_cases there : c.1 ∈ keys q
  · rwa [keys_put_of_mem there]
  · have kept : (if q.length < cap then q else q.tail).Sublist q := by
      split
      · exact List.Sublist.refl q
      · exact List.tail_sublist q
    rw [put_of_notMem there, keys, List.map_append, List.nodup_append]
    refine ⟨nodup.sublist (kept.map Prod.fst), List.nodup_singleton _, ?_⟩
    rintro a old b new rfl
    obtain rfl := List.mem_singleton.mp new
    exact there ((kept.map Prod.fst).subset old)

omit [DecidableEq Key] in
/-- The last keys, and another one. -/
theorem rtake_concat_of_length {room : Nat} (full : keys q = inserted.rtake (room + 1)) :
    keys (if q.length < room + 1 then q else q.tail) ++ [k] = (inserted ++ [k]).rtake (room + 1) := by
  have size : q.length = (inserted.rtake (room + 1)).length := by
    rw [← full, keys, List.length_map]
  rw [List.rtake, List.length_drop] at size
  rw [List.rtake_concat_succ]
  congr 1
  split
  · rename_i short
    rw [full, List.rtake, List.rtake, show inserted.length - (room + 1) = 0 by omega,
      show inserted.length - room = 0 by omega]
  · rename_i long
    have next : inserted.length - (room + 1) + 1 = inserted.length - room := by omega
    rw [keys, List.map_tail]
    show (keys q).tail = _
    rw [full, List.rtake, List.tail_drop, next, List.rtake]

/-- **A record is followed.** -/
theorem Follows.put (follows : Follows cap calls q inserted) (some_ : 0 < cap) (c : Key × Value) :
    Follows cap (calls ++ [c]) (put cap q c)
      (inserted ++ if c.1 ∈ keys q then [] else [c.1]) := by
  have recorded (k : Key) : k ∈ keys (calls ++ [c]) ↔ k ∈ keys calls ∨ k = c.1 := by
    rw [keys, List.map_append, List.mem_append, List.map_singleton, List.mem_singleton]
    rfl
  by_cases there : c.1 ∈ keys q
  · rw [if_pos there, List.append_nil]
    refine ⟨(keys_put_of_mem there).trans follows.last, nodup_put follows.nodup, ?_, fun k => ?_⟩
    · rw [FifoMap.put, if_pos there]
      rintro _ mem
      obtain ⟨e, old, rfl⟩ := List.mem_map.mp mem
      by_cases same : e.1 = c.1
      · rw [if_pos same]
        exact latest_self
      · rw [if_neg same, latest_of_ne same]
        exact follows.values e old
    · have known : c.1 ∈ keys calls := by
        rw [← follows.recorded]
        rw [follows.last] at there
        exact List.mem_of_mem_drop there
      rw [recorded, follows.recorded]
      refine ⟨.inl, fun either => either.elim id ?_⟩
      rintro rfl
      exact known
  · rw [if_neg there]
    obtain ⟨room, rfl⟩ := Nat.exists_eq_succ_of_ne_zero some_.ne'
    have last : keys (FifoMap.put (room + 1) q c) = (inserted ++ [c.1]).rtake (room + 1) := by
      rw [← rtake_concat_of_length follows.last, put_of_notMem there, keys, List.map_append]
      rfl
    have kept : (if q.length < room + 1 then q else q.tail) ⊆ q := by
      split
      · exact List.Subset.refl q
      · exact (List.tail_sublist q).subset
    refine ⟨last, nodup_put follows.nodup, ?_, fun k => ?_⟩
    · intro e mem
      rw [put_of_notMem there, List.mem_append, List.mem_singleton] at mem
      rcases mem with old | rfl
      · have other : e.1 ≠ c.1 := by
          rintro same
          exact there (same ▸ List.mem_map_of_mem (kept old))
        rw [latest_of_ne other]
        exact follows.values e (kept old)
      · exact latest_self
    · rw [recorded, List.mem_append, List.mem_singleton, follows.recorded]

end Step

/-! ## A run -/

section Run

variable {cap : Nat} {calls q : List (Key × Value)} {inserted : List Key} {k : Key}

/-- **A run is followed.** -/
theorem follows_run (some_ : 0 < cap) (calls : List (Key × Value)) :
    Follows cap calls (run cap calls) (insertions cap [] calls) := by
  induction calls using List.reverseRecOn with
  | nil => exact ⟨List.drop_nil.symm, List.nodup_nil, nofun, fun _ => Iff.rfl⟩
  | append_singleton calls c ih =>
      have step := ih.put some_ c
      rw [run, List.foldl_append, insertions_append]
      rwa [← List.append_nil (if c.1 ∈ keys (run cap calls) then [] else [c.1])] at step

variable (follows : Follows cap calls q inserted)

include follows

/-- How many keys are there: as many as were recorded, up to the capacity. -/
theorem Follows.length : q.length = min cap (keys calls).dedup.length := by
  have size : q.length = min cap inserted.length := by
    rw [← List.length_map (f := Prod.fst), ← keys, follows.last, List.rtake, List.length_drop]
    omega
  have fewer : q.length ≤ (keys calls).dedup.length := by
    rw [← List.length_map (f := Prod.fst)]
    apply (follows.nodup.subperm _).length_le
    intro k mem
    rw [List.mem_dedup, ← follows.recorded]
    rw [follows.last] at mem
    exact List.mem_of_mem_drop mem
  have more : (keys calls).dedup.length ≤ inserted.length := by
    apply ((List.nodup_dedup _).subperm _).length_le
    intro k mem
    rw [follows.recorded]
    exact List.mem_dedup.mp mem
  omega

/-- The keys that are there are the last ones that came in. -/
theorem Follows.last_distinct : keys q = inserted.rtake (min cap (keys calls).dedup.length) := by
  have size := congrArg List.length follows.last
  rw [keys, List.length_map, List.rtake, List.length_drop, follows.length] at size
  rw [follows.last, List.rtake, List.rtake]
  congr 1
  omega

theorem Follows.take_since_nodup : (inserted.reverse.take cap).Nodup := by
  have nodup := follows.nodup
  rwa [follows.last, List.rtake_eq_reverse_take_reverse, List.nodup_reverse] at nodup

/-- **Which keys are there**: those that were recorded, unless as many others as the queue has room
for came in since. -/
theorem Follows.mem_keys_iff (k : Key) :
    k ∈ keys q ↔ k ∈ keys calls ∧ (since k inserted).dedup.length < cap := by
  have front (l : List Key) (n : Nat) :
      k ∈ l.take n ↔ k ∈ l ∧ (l.takeWhile (· ≠ k)).length < n := by
    induction l generalizing n with
    | nil => simp
    | cons x rest ih =>
        cases n with
        | zero => simp
        | succ n =>
            rw [List.take_succ_cons, List.mem_cons, List.mem_cons, ih]
            by_cases same : x = k
            · simp [same]
            · simp [same, Ne.symm same]
  have distinct : (since k inserted).dedup.length < cap ↔ (since k inserted).length < cap := by
    refine ⟨fun few => ?_, fun few => Nat.lt_of_le_of_lt (List.dedup_sublist _).length_le few⟩
    by_contra many
    rw [Nat.not_lt] at many
    -- the last ones that came in are different keys
    have whole : (since k inserted).take cap = inserted.reverse.take cap := by
      obtain ⟨rest, split⟩ := List.takeWhile_prefix (l := inserted.reverse) (fun x => decide (x ≠ k))
      rw [← split]
      exact (List.take_append_of_le_length many).symm
    have nodup := follows.take_since_nodup
    rw [← whole] at nodup
    have least := (nodup.subperm fun x mem =>
      List.mem_dedup.mpr (List.mem_of_mem_take mem)).length_le
    rw [List.length_take, Nat.min_eq_left many] at least
    omega
  rw [distinct, follows.last, List.rtake_eq_reverse_take_reverse, List.mem_reverse, front,
    List.mem_reverse, follows.recorded]
  rfl

/-- What is there has its latest value. -/
theorem Follows.lookup_eq (k : Key) :
    q.lookup k =
      if k ∈ keys calls ∧ (since k inserted).dedup.length < cap then latest calls k else none := by
  split
  · rename_i there
    rw [← follows.mem_keys_iff, ← lookup_isSome_iff_mem_keys] at there
    obtain ⟨v, value⟩ := Option.isSome_iff_exists.mp there
    rw [value, follows.values (k, v) (mem_of_lookup value)]
  · rename_i gone
    rw [← follows.mem_keys_iff] at gone
    exact lookup_eq_none_of_notMem gone

end Run

/-! ## In an array -/

section Cells

variable {l q : List (Key × Value)} {c : Key × Value} {i n : Nat} {k : Key} {v : Value}

/-- A value changed in the cell of its key. -/
theorem set_eq_map (nodup : (keys l).Nodup) (inside : i < l.length) (own : l[i].1 = c.1) :
    l.set i c = l.map fun e => if e.1 = c.1 then c else e := by
  apply List.ext_getElem
  · rw [List.length_set, List.length_map]
  intro j _ inside'
  rw [List.length_map] at inside'
  rw [List.getElem_set, List.getElem_map]
  by_cases here : i = j
  · subst here
    rw [if_pos rfl, if_pos own]
  · have other : l[j].1 ≠ c.1 := by
      intro same
      have length : (keys l).length = l.length := List.length_map _
      have same' : (keys l).get ⟨i, by rwa [length]⟩ = (keys l).get ⟨j, by rwa [length]⟩ := by
        simp only [List.get_eq_getElem, keys, List.getElem_map]
        rw [own, same]
      exact here (Fin.mk.inj_iff.mp (nodup.get_inj_iff.mp same'))
    rw [if_neg here, if_neg other]

omit [DecidableEq Key] in
/-- The oldest cell overwritten, and the start moved behind it. -/
theorem rotate_set_succ (l : List (Key × Value)) (inside : n < l.length) (c : Key × Value) :
    (l.set n c).rotate (n + 1) = (l.rotate n).tail ++ [c] := by
  have length : n + 1 ≤ (l.set n c).length := by
    rw [List.length_set]
    exact inside
  have front : (l.set n c).take (n + 1) = l.take n ++ [c] := by
    rw [List.take_set, List.take_add_one, List.getElem?_eq_getElem inside,
      List.set_append_right n c (List.length_take_le n l), List.length_take, Nat.min_eq_left inside.le,
      Nat.sub_self]
    rfl
  have back : (l.set n c).drop (n + 1) = (l.drop n).tail := by
    rw [List.drop_set_of_lt (Nat.lt_succ_self n), List.tail_drop]
  have some_ : l.drop n ≠ [] := by
    intro none_
    rw [List.drop_eq_nil_iff] at none_
    omega
  rw [List.rotate_eq_drop_append_take length, List.rotate_eq_drop_append_take inside.le, front, back,
    List.tail_append_of_ne_nil some_, List.append_assoc]

theorem lookup_of_mem (nodup : (keys q).Nodup) (mem : (k, v) ∈ q) : q.lookup k = some v := by
  have found : (q.lookup k).isSome := lookup_isSome_iff_mem_keys.mpr (List.mem_map_of_mem mem)
  obtain ⟨v', value⟩ := Option.isSome_iff_exists.mp found
  have same := List.inj_on_of_nodup_map nodup mem (mem_of_lookup value) rfl
  rw [value, (Prod.mk.inj same).2]

theorem latest_map {Value' : Type v} (f : Value → Value') (calls : List (Key × Value)) (k : Key) :
    latest (calls.map fun c => (c.1, f c.2)) k = (latest calls k).map f := by
  rw [latest, latest, ← List.map_reverse]
  generalize calls.reverse = rest
  induction rest with
  | nil => rfl
  | cons c rest ih =>
      rw [List.map_cons, List.lookup_cons, List.lookup_cons, ih]
      cases k == c.1 <;> rfl

end Cells

end NimbleProxy.Theory.FifoMap
