/-
# Theory.LruTable -- a bounded table that makes room by time stamps

A table keeps at most one entry for each key. An entry is replaced, or appended while
there is room; in a full table it takes the place of the entry with the least stamp.
`Upserted` says what that does to the table as a multiset, and `upserted_at`,
`upserted_append` and `upserted_over` say that the three ways to do it in an array are
instances of it.

`sweep` removes entries from an array by moving the last one into each hole and looking
at it again; `sweep_perm` says that this is a filter.

A stamp is taken from a clock of 32 bits. The least stamp is the oldest one exactly if
the clock has not wrapped among the sightings (`least_is_oldest_iff`).
-/
import Mathlib.Data.List.Perm.Basic
import Mathlib.Data.List.Nodup
import Mathlib.Order.Lattice
import Mathlib.Order.Nat
import Mathlib.Tactic.Common

namespace NimbleProxy.Theory.LruTable

set_option autoImplicit false

universe u v w

/-! ## The least stamp -/

section Least

variable {α : Type w} [LinearOrder α]

/-- The loop over the indices from `i` on that keeps the index of the least stamp so far. -/
def leastLoop (stamp : Nat → α) (least i : Nat) : Nat → Nat
  | 0 => least
  | left + 1 =>
      if stamp i < stamp least then leastLoop stamp i (i + 1) left
      else leastLoop stamp least (i + 1) left

theorem leastLoop_spec (stamp : Nat → α) {least i : Nat} (left : Nat) (below : least < i)
    (isLeast : ∀ j < i, stamp least ≤ stamp j) :
    leastLoop stamp least i left < i + left ∧
      ∀ j < i + left, stamp (leastLoop stamp least i left) ≤ stamp j := by
  induction left generalizing least i with
  | zero => exact ⟨below, isLeast⟩
  | succ left ih =>
      rw [← Nat.add_assoc, Nat.add_right_comm]
      unfold leastLoop
      split
      · rename_i less
        refine ih (Nat.lt_succ_self i) fun j before => ?_
        rcases Nat.lt_succ_iff_lt_or_eq.mp before with earlier | rfl
        · exact le_trans (le_of_lt less) (isLeast j earlier)
        · exact le_rfl
      · rename_i notLess
        refine ih (Nat.lt_succ_of_lt below) fun j before => ?_
        rcases Nat.lt_succ_iff_lt_or_eq.mp before with earlier | rfl
        · exact isLeast j earlier
        · exact not_lt.mp notLess

end Least

/-! ## Upserts -/

variable {Entry : Type u} {Key : Type v} {α : Type w}

section Upserts

variable [LinearOrder α] {key : Entry → Key} {stamp : Entry → α} {cap : Nat} {k : Key}
  {replace : Option Entry → Entry} {table after : List Entry}

/-- The new entry has the key, if the one that it replaces had it. -/
def Keyed (key : Entry → Key) (k : Key) (replace : Option Entry → Entry) : Prop :=
  ∀ previous, (∀ old ∈ previous, key old = k) → key (replace previous) = k

/-- What an upsert of the key `k` makes of a table; `replace` has the new entry, from the one
that the key had. -/
inductive Upserted (key : Entry → Key) (stamp : Entry → α) (cap : Nat) (k : Key)
    (replace : Option Entry → Entry) (table after : List Entry) : Prop
  | update (old : Entry) (rest : List Entry) (own : key old = k) (before : table.Perm (old :: rest))
      (now : after.Perm (replace (some old) :: rest))
  | insert (new : ∀ e ∈ table, key e ≠ k) (room : table.length < cap)
      (now : after.Perm (replace none :: table))
  | evict (gone : Entry) (rest : List Entry) (new : ∀ e ∈ table, key e ≠ k)
      (full : cap ≤ table.length) (before : table.Perm (gone :: rest))
      (least : ∀ e ∈ table, stamp gone ≤ stamp e) (now : after.Perm (replace none :: rest))

theorem upserted_at {i : Nat} (inside : i < table.length) (own : key table[i] = k) :
    Upserted key stamp cap k replace table (table.set i (replace (some table[i]))) :=
  .update table[i] (table.eraseIdx i) own (List.getElem_cons_eraseIdx_perm inside).symm
    (List.set_perm_cons_eraseIdx inside _)

theorem upserted_append (new : ∀ e ∈ table, key e ≠ k) (room : table.length < cap) :
    Upserted key stamp cap k replace table (table ++ [replace none]) :=
  .insert new room (List.perm_append_singleton _ _)

theorem upserted_over {i : Nat} (new : ∀ e ∈ table, key e ≠ k) (full : cap ≤ table.length)
    (inside : i < table.length) (least : ∀ e ∈ table, stamp table[i] ≤ stamp e) :
    Upserted key stamp cap k replace table (table.set i (replace none)) :=
  .evict table[i] (table.eraseIdx i) new full (List.getElem_cons_eraseIdx_perm inside).symm least
    (List.set_perm_cons_eraseIdx inside _)

theorem Upserted.length_le (upserted : Upserted key stamp cap k replace table after)
    (bounded : table.length ≤ cap) : after.length ≤ cap := by
  cases upserted with
  | update old rest own before now =>
      have same := before.length_eq.trans now.length_eq.symm
      exact same ▸ bounded
  | insert new room now => exact now.length_eq ▸ room
  | evict gone rest new full before least now =>
      have same := before.length_eq.trans now.length_eq.symm
      exact same ▸ bounded

/-- What all entries satisfy, if the new ones do. -/
theorem Upserted.all {P : Entry → Prop} (upserted : Upserted key stamp cap k replace table after)
    (held : ∀ e ∈ table, P e)
    (kept : ∀ previous, (∀ old ∈ previous, P old) → P (replace previous)) : ∀ e ∈ after, P e := by
  have fresh : P (replace none) := kept none nofun
  intro e mem
  cases upserted with
  | update old rest own before now =>
      rcases List.mem_cons.mp (now.mem_iff.mp mem) with rfl | other
      · apply kept _
        rintro _ ⟨⟩
        exact held old (before.mem_iff.mpr List.mem_cons_self)
      · exact held e (before.mem_iff.mpr (List.mem_cons_of_mem _ other))
  | insert new room now =>
      rcases List.mem_cons.mp (now.mem_iff.mp mem) with rfl | other
      · exact fresh
      · exact held e other
  | evict gone rest new full before least now =>
      rcases List.mem_cons.mp (now.mem_iff.mp mem) with rfl | other
      · exact fresh
      · exact held e (before.mem_iff.mpr (List.mem_cons_of_mem _ other))

theorem keys_ne_of_nodup_cons {e : Entry} {rest : List Entry} (before : table.Perm (e :: rest))
    (distinct : (table.map key).Nodup) : ∀ r ∈ rest, key r ≠ key e := by
  intro r mem same
  have nodup := (before.map key).nodup_iff.mp distinct
  rw [List.map_cons, List.nodup_cons] at nodup
  exact nodup.1 (same ▸ List.mem_map_of_mem mem)

/-- Apart from one entry for `k`, the table is some `rest` without any. -/
theorem Upserted.split (upserted : Upserted key stamp cap k replace table after)
    (keyed : Keyed key k replace) (distinct : (table.map key).Nodup) :
    ∃ previous rest, after.Perm (replace previous :: rest) ∧ key (replace previous) = k ∧
      (∀ e ∈ rest, key e ≠ k) ∧ (rest.map key).Nodup ∧
      (∀ old ∈ table, key old = k → previous = some old) ∧
      ((∀ old ∈ table, key old ≠ k) → previous = none) := by
  cases upserted with
  | update old rest own before now =>
      have others := own ▸ keys_ne_of_nodup_cons before distinct
      have nodup := (before.map key).nodup_iff.mp distinct
      rw [List.map_cons, List.nodup_cons] at nodup
      refine ⟨some old, rest, now, keyed _ (by rintro _ ⟨⟩; exact own), others, nodup.2,
        fun e mem same => ?_, fun none => ?_⟩
      · rcases List.mem_cons.mp (before.mem_iff.mp mem) with rfl | other
        · rfl
        · exact absurd same (others e other)
      · exact absurd own (none old (before.mem_iff.mpr List.mem_cons_self))
  | insert new room now =>
      exact ⟨none, table, now, keyed none nofun, new, distinct,
        fun e mem same => absurd same (new e mem), fun _ => rfl⟩
  | evict gone rest new full before least now =>
      have nodup := (before.map key).nodup_iff.mp distinct
      rw [List.map_cons, List.nodup_cons] at nodup
      exact ⟨none, rest, now, keyed none nofun,
        fun e mem => new e (before.mem_iff.mpr (List.mem_cons_of_mem _ mem)), nodup.2,
        fun e mem same => absurd same (new e mem), fun _ => rfl⟩

/-- **Keys stay distinct.** -/
theorem Upserted.nodup (upserted : Upserted key stamp cap k replace table after)
    (keyed : Keyed key k replace) (distinct : (table.map key).Nodup) :
    (after.map key).Nodup := by
  obtain ⟨previous, rest, now, own, others, nodup, -⟩ := upserted.split keyed distinct
  refine (now.map key).nodup_iff.mpr ?_
  rw [List.map_cons, List.nodup_cons, own]
  refine ⟨fun mem => ?_, nodup⟩
  obtain ⟨e, inside, same⟩ := List.mem_map.mp mem
  exact others e inside same

variable [DecidableEq Key]

/-- **One entry has the key**, and it is made from the one that had it. -/
theorem Upserted.own (upserted : Upserted key stamp cap k replace table after)
    (keyed : Keyed key k replace) (distinct : (table.map key).Nodup) :
    ∃ previous, after.filter (fun e => key e = k) = [replace previous] ∧
      (∀ old ∈ table, key old = k → previous = some old) ∧
      ((∀ old ∈ table, key old ≠ k) → previous = none) := by
  obtain ⟨previous, rest, now, own, others, -, known, unknown⟩ := upserted.split keyed distinct
  refine ⟨previous, ?_, known, unknown⟩
  have none : rest.filter (fun e => key e = k) = [] := by
    simpa [List.filter_eq_nil_iff] using others
  have only := now.filter fun e => decide (key e = k)
  rw [List.filter_cons_of_pos (by simp [own]), none] at only
  exact List.perm_singleton.mp only

/-- **No other entry changes**, if the key is known or there is room. -/
theorem Upserted.others (upserted : Upserted key stamp cap k replace table after)
    (keyed : Keyed key k replace)
    (fits : (∃ e ∈ table, key e = k) ∨ table.length < cap) :
    (after.filter fun e => key e ≠ k).Perm (table.filter fun e => key e ≠ k) := by
  cases upserted with
  | update old rest is before now =>
      have own : key (replace (some old)) = k := keyed _ (by rintro _ ⟨⟩; exact is)
      refine (now.filter _).trans (List.Perm.trans ?_ (before.filter _).symm)
      rw [List.filter_cons_of_neg (by simp [own]), List.filter_cons_of_neg (by simp [is])]
  | insert new room now =>
      refine (now.filter _).trans ?_
      rw [List.filter_cons_of_neg (by simp [keyed none nofun])]
  | evict gone rest new full before least now =>
      rcases fits with ⟨e, mem, is⟩ | room
      · exact absurd is (new e mem)
      · omega

/-- **Otherwise one entry goes**, one with the least stamp. -/
theorem Upserted.evicted (upserted : Upserted key stamp cap k replace table after)
    (keyed : Keyed key k replace) (new : ∀ e ∈ table, key e ≠ k)
    (full : cap ≤ table.length) :
    ∃ gone rest, table.Perm (gone :: rest) ∧ (∀ e ∈ table, stamp gone ≤ stamp e) ∧
      after.Perm (replace none :: rest) ∧ (after.filter fun e => key e ≠ k).Perm rest := by
  cases upserted with
  | update old rest is before now =>
      exact absurd is (new old (before.mem_iff.mpr List.mem_cons_self))
  | insert _ room now => omega
  | evict gone rest _ _ before least now =>
      refine ⟨gone, rest, before, least, now, (now.filter _).trans ?_⟩
      rw [List.filter_cons_of_neg (by simp [keyed none nofun])]
      refine List.Perm.of_eq (List.filter_eq_self.mpr fun e mem => ?_)
      simpa using new e (before.mem_iff.mpr (List.mem_cons_of_mem _ mem))

end Upserts

/-! ## Sweeps -/

section Sweep

variable {stale : Entry → Bool} {table : List Entry}

/-- The loop that removes the stale entries from index `i` on. -/
def sweep (stale : Entry → Bool) (table : List Entry) (i : Nat) : List Entry :=
  if inside : i < table.length then
    if stale table[i] then
      sweep stale (table.set i (table.getLast (List.ne_nil_of_length_pos (by omega)))).dropLast i
    else sweep stale table (i + 1)
  else table
termination_by table.length - i
decreasing_by
  · rw [List.length_dropLast, List.length_set]
    omega
  · omega

/-- The last entry moves into the hole at `i`. -/
theorem fillHole_perm (done : List Entry) (hole : Entry) (rest : List Entry)
    (some_ : done ++ hole :: rest ≠ []) :
    ∃ rest', ((done ++ hole :: rest).set done.length
      ((done ++ hole :: rest).getLast some_)).dropLast = done ++ rest' ∧ rest'.Perm rest := by
  rcases List.eq_nil_or_concat rest with rfl | ⟨front, last, rfl⟩
  · exact ⟨[], by simp, .refl _⟩
  · refine ⟨last :: front, ?_, ?_⟩
    · have shape : done ++ hole :: front.concat last = done ++ hole :: front ++ [last] := by simp
      simp only [shape, List.getLast_concat]
      rw [List.append_assoc, List.cons_append, List.set_append_right _ _ (Nat.le_refl _),
        Nat.sub_self, List.set_cons_zero, ← List.cons_append, ← List.append_assoc,
        List.dropLast_concat]
    · rw [List.concat_eq_append]
      exact (List.perm_append_singleton last front).symm

theorem sweep_split (done rest : List Entry) :
    (sweep stale (done ++ rest) done.length).Perm (done ++ rest.filter fun e => !stale e) := by
  induction length : rest.length using Nat.strongRecOn generalizing done rest with
  | ind n ih =>
      unfold sweep
      cases rest with
      | nil => simp
      | cons e rest =>
          have inside : done.length < (done ++ e :: rest).length := by simp
          have here : (done ++ e :: rest)[done.length] = e := by simp
          rw [dif_pos inside, here]
          cases old : stale e with
          | true =>
              obtain ⟨rest', moved, perm⟩ :=
                fillHole_perm done e rest (by simp)
              rw [if_pos rfl, moved, List.filter_cons_of_neg (by simp [old])]
              refine (ih rest'.length ?_ done rest' rfl).trans ((perm.filter _).append_left done)
              rw [perm.length_eq, ← length, List.length_cons]
              omega
          | false =>
              have next := ih rest.length (by rw [← length, List.length_cons]; omega)
                (done ++ [e]) rest rfl
              rw [if_neg Bool.false_ne_true, List.filter_cons_of_pos (by simp [old])]
              simpa using next

/-- **A sweep is a filter.** -/
theorem sweep_perm (stale : Entry → Bool) (table : List Entry) :
    (sweep stale table 0).Perm (table.filter fun e => !stale e) :=
  sweep_split [] table

end Sweep

/-! ## Stamps of a wrapping clock -/

/-- **The least stamp has the greatest age** exactly if all stamps are from before the last wrap
of the clock, or all from after it. -/
theorem least_is_oldest_iff {table : List Entry} {stamp : Entry → UInt32} {least : Entry}
    (mem : least ∈ table) (isLeast : ∀ e ∈ table, (stamp least).toNat ≤ (stamp e).toNat)
    (now : UInt32) :
    (∀ e ∈ table, (now - stamp e).toNat ≤ (now - stamp least).toNat) ↔
      (∀ e ∈ table, stamp e ≤ now) ∨ ∀ e ∈ table, now < stamp e := by
  have age_after (s : UInt32) (order : s ≤ now) : (now - s).toNat = now.toNat - s.toNat := by
    rw [UInt32.le_iff_toNat_le] at order
    have := now.toNat_lt
    rw [UInt32.toNat_sub]
    omega
  have age_before (s : UInt32) (order : now < s) :
      (now - s).toNat = 2 ^ 32 + now.toNat - s.toNat := by
    rw [UInt32.lt_iff_toNat_lt] at order
    have := s.toNat_lt
    rw [UInt32.toNat_sub]
    omega
  constructor
  · intro oldest
    by_cases wrapped : stamp least ≤ now
    · refine .inl fun e inside => ?_
      have older := oldest e inside
      by_contra past
      rw [age_after _ wrapped, age_before _ (UInt32.not_le.mp past)] at older
      have := (stamp e).toNat_lt
      omega
    · refine .inr fun e inside => ?_
      have less := UInt32.lt_iff_toNat_lt.mp (UInt32.not_le.mp wrapped)
      have least := isLeast e inside
      rw [UInt32.lt_iff_toNat_lt]
      omega
  · rintro (after | before) e inside
    · have least := isLeast e inside
      rw [age_after _ (after e inside), age_after _ (after _ mem)]
      omega
    · have least := isLeast e inside
      rw [age_before _ (before e inside), age_before _ (before _ mem)]
      omega

/-- No sighting and `now` have a wrap of the clock between them, or all of them have. -/
def SameSide (stamp : Entry → UInt32) (now : UInt32) (table : List Entry) : Prop :=
  (∀ e ∈ table, stamp e ≤ now) ∨ ∀ e ∈ table, now < stamp e

instance (stamp : Entry → UInt32) (now : UInt32) (table : List Entry) :
    Decidable (SameSide stamp now table) :=
  inferInstanceAs (Decidable (_ ∨ _))

/-- The entry that has made room for the key `k` is one of the greatest age. -/
def EvictsOldest (key : Entry → Key) [DecidableEq Key] (stamp : Entry → UInt32) (k : Key)
    (now : UInt32) (before after : List Entry) : Prop :=
  ∃ gone rest, before.Perm (gone :: rest) ∧ (after.filter fun e => key e ≠ k).Perm rest ∧
    ∀ e ∈ before, now - stamp e ≤ now - stamp gone

theorem Upserted.evictsOldest_iff [DecidableEq Key] {key : Entry → Key} {stamp : Entry → UInt32}
    {cap : Nat} {k : Key} {replace : Option Entry → Entry} {table after : List Entry}
    (upserted : Upserted key (fun e => (stamp e).toNat) cap k replace table after)
    (keyed : Keyed key k replace) (new : ∀ e ∈ table, key e ≠ k) (full : cap ≤ table.length)
    (now : UInt32) :
    EvictsOldest key stamp k now table after ↔ SameSide stamp now table := by
  obtain ⟨gone, rest, before, least, -, others⟩ := upserted.evicted keyed new full
  rw [SameSide, ← least_is_oldest_iff (before.mem_iff.mpr List.mem_cons_self) least now]
  simp only [← UInt32.le_iff_toNat_le]
  constructor
  · rintro ⟨gone', rest', before', others', oldest⟩
    -- what is left determines what has gone
    have same : (gone' :: rest).Perm (gone :: rest) :=
      ((others.symm.trans others').cons gone').trans (before'.symm.trans before)
    have front : [gone'].Perm [gone] := (List.perm_append_right_iff rest).mp same
    obtain rfl : gone' = gone := by simpa using front
    exact oldest
  · intro oldest
    exact ⟨gone, rest, before, others, oldest⟩

end NimbleProxy.Theory.LruTable
