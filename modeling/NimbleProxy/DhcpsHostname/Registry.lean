/-
# DhcpsHostname.Registry -- the names that clients have sent

`record` and `dhcps_hostname_lookup` of `dhcps_hostname.c`: eight entries for a MAC and a
name. A name goes to the entry of its MAC, else to the first entry that is not used, else to
the entry at `s_next`, which then moves on. The entries are filled from the front, and `s_next`
starts to move when all of them are used; so it always points to the entry that was inserted
first, and the table is a queue of MACs (`record_queue`). What it holds after any sequence of
records follows (`registry`).

The calls exclude each other by `s_mux`. `strlcpy` keeps 31 bytes of a name; the names of
the hook have no more.
-/
import NimbleProxy.NatRouter.NatJson
import NimbleProxy.Theory.FifoMap

namespace NimbleProxy.DhcpsHostname.Registry

open NimbleProxy.Theory CString FifoMap
open NimbleProxy.NatRouter.NatJson (Mac)

set_option autoImplicit false

theorem nul_notMem_nil : (0 : UInt8) ∉ ([] : List UInt8) := List.not_mem_nil

/-- `hn_entry_t`. -/
structure Entry where
  mac : Mac := ⟨0, 0, 0, 0, 0, 0⟩
  used : Bool := false
  name : Text 32 := ⟨[], by decide, nul_notMem_nil⟩

structure Table where
  /-- `s_tbl` -/
  tbl : Vector Entry 8 := .replicate 8 {}
  /-- `s_next`, which is below `HN_SLOTS` -/
  next : Fin 8 := 0

/-- The entry of a MAC. -/
def Entry.has (mac : Mac) (e : Entry) : Bool := e.used && e.mac == mac

/-- An entry as a record leaves it. -/
def Entry.filled (c : Mac × Str) : Entry := ⟨c.1, true, Text.copy c.2⟩

def record (t : Table) (c : Mac × Str) : Table :=
  match t.tbl.toList.findIdx? (Entry.has c.1) with
  | some slot => { t with tbl := t.tbl.setIfInBounds slot (.filled c) }
  | none =>
      match t.tbl.toList.findIdx? fun e => !e.used with
      | some slot => { t with tbl := t.tbl.setIfInBounds slot (.filled c) }
      | none => { tbl := t.tbl.setIfInBounds t.next (.filled c), next := t.next + 1 }

/-- `strlcpy` into a buffer of `cap` bytes, of which there may be none. -/
def copyOut (cap : Nat) (s : List UInt8) : Option (List UInt8) :=
  if cap = 0 then none else some (s.take (cap - 1))

/-- `dhcps_hostname_lookup`: its answer, and the string in `out`. -/
def lookup (t : Table) (mac : Mac) (cap : Nat) : Bool × Option (List UInt8) :=
  match t.tbl.toList.find? (Entry.has mac) with
  | some e => (!e.name.bytes.isEmpty, copyOut cap e.name.bytes)
  | none => (false, copyOut cap [])

/-! ## The table as a queue -/

def Entry.pair (e : Entry) : Mac × Text 32 := (e.mac, e.name)

/-- The used entries. -/
def entries (t : Table) : List (Mac × Text 32) := (t.tbl.toList.filter Entry.used).map Entry.pair

def macs (t : Table) : List Mac := keys (entries t)

/-- The used entries, from `s_next` on. -/
def queue (t : Table) : List (Mac × Text 32) := (entries t).rotate t.next

/-- What a record puts into the table. -/
def stored (c : Mac × Str) : Mac × Text 32 := (c.1, Text.copy c.2)

/-- The entries are used from the front, and `s_next` is at the front until all are. -/
structure Shape (t : Table) (front back : List Entry) : Prop where
  split : t.tbl.toList = front ++ back
  used : ∀ e ∈ front, e.used = true
  free : ∀ e ∈ back, e.used = false
  start : back ≠ [] → t.next = 0

section Queue

variable {t : Table} {front back : List Entry} {c : Mac × Str} {mac : Mac} {slot : Nat}

theorem Shape.entries_eq (shape : Shape t front back) : entries t = front.map Entry.pair := by
  rw [entries, shape.split, List.filter_append, List.filter_eq_self.mpr shape.used,
    List.filter_eq_nil_iff.mpr fun e mem => by simp [shape.free e mem], List.append_nil]

theorem Shape.length (shape : Shape t front back) : front.length + back.length = 8 := by
  rw [← List.length_append, ← shape.split, Vector.length_toList]

theorem mem_macs_queue : mac ∈ keys (queue t) ↔ mac ∈ macs t := by
  rw [keys, queue, List.map_rotate, List.mem_rotate]
  rfl

theorem nodup_queue : (keys (queue t)).Nodup ↔ (macs t).Nodup := by
  rw [keys, queue, List.map_rotate, List.nodup_rotate]
  rfl

theorem length_queue (shape : Shape t front back) : (queue t).length = front.length := by
  rw [queue, List.length_rotate, shape.entries_eq, List.length_map]

theorem Shape.mem_macs_iff (shape : Shape t front back) :
    mac ∈ macs t ↔ ∃ e ∈ front, e.mac = mac := by
  rw [macs, keys, shape.entries_eq, List.map_map, List.mem_map]
  rfl

theorem shape_init : Shape {} [] (List.replicate 8 {}) where
  split := rfl
  used := nofun
  free := fun e mem => by rw [List.eq_of_mem_replicate mem]
  start := fun _ => rfl

/-- An entry of the MAC is among the used ones. -/
theorem Shape.find (shape : Shape t front back) (found : t.tbl.toList.findIdx? (Entry.has mac) = some slot) :
    ∃ inside : slot < front.length, front[slot].mac = mac := by
  obtain ⟨inside, has, -⟩ := List.findIdx?_eq_some_iff_getElem.mp found
  simp only [shape.split] at inside has
  have own := Bool.and_eq_true_iff.mp has
  by_cases early : slot < front.length
  · rw [List.getElem_append_left early] at own
    exact ⟨early, by simpa using own.2⟩
  · rw [List.getElem_append_right (Nat.le_of_not_lt early)] at own
    rw [shape.free _ (List.getElem_mem _)] at own
    exact absurd own.1 Bool.false_ne_true

theorem Shape.find_none (shape : Shape t front back) :
    t.tbl.toList.findIdx? (Entry.has mac) = none ↔ mac ∉ macs t := by
  rw [List.findIdx?_eq_none_iff, shape.mem_macs_iff, shape.split]
  constructor
  · rintro none_ ⟨e, mem, rfl⟩
    have has := none_ e (List.mem_append_left _ mem)
    simp [Entry.has, shape.used e mem] at has
  · intro new e mem
    rcases List.mem_append.mp mem with there | there
    · have other : e.mac ≠ mac := fun same => new ⟨e, there, same⟩
      simp [Entry.has, other]
    · simp [Entry.has, shape.free e there]

/-- The first entry that is not used. -/
theorem Shape.find_free (shape : Shape t front back) :
    t.tbl.toList.findIdx? (fun e => !e.used) = if back = [] then none else some front.length := by
  have none_ : front.findIdx? (fun e => !e.used) = none := by
    rw [List.findIdx?_eq_none_iff]
    intro e mem
    simp [shape.used e mem]
  rw [shape.split, List.findIdx?_append, none_]
  cases back with
  | nil => rfl
  | cons e rest =>
      have first := shape.free e List.mem_cons_self
      rw [if_neg (List.cons_ne_nil e rest), List.findIdx?_cons]
      simp [first]

/-- An entry in use is written. -/
theorem Shape.overwrite (shape : Shape t front back) (inside : slot < front.length) (c : Mac × Str)
    (next : Fin 8) (start : back ≠ [] → next = 0) :
    Shape ⟨t.tbl.setIfInBounds slot (.filled c), next⟩ (front.set slot (.filled c)) back where
  split := by rw [Vector.toList_setIfInBounds, shape.split, List.set_append_left slot _ inside]
  used := fun e mem => by
    rcases List.mem_or_eq_of_mem_set mem with old | rfl
    · exact shape.used e old
    · rfl
  free := shape.free
  start := start

/-- The first entry that is not in use is written. -/
theorem Shape.fill {e : Entry} {rest : List Entry} (shape : Shape t front (e :: rest)) :
    Shape ⟨t.tbl.setIfInBounds front.length (.filled c), t.next⟩ (front ++ [.filled c]) rest where
  split := by
    rw [Vector.toList_setIfInBounds, shape.split, List.set_append_right _ _ (Nat.le_refl _),
      Nat.sub_self, List.set_cons_zero, List.append_assoc, List.singleton_append]
  used := fun e' mem => by
    rcases List.mem_append.mp mem with old | last
    · exact shape.used e' old
    · rw [List.mem_singleton.mp last]
      rfl
  free := fun e' mem => shape.free e' (List.mem_cons_of_mem e mem)
  start := fun _ => shape.start (List.cons_ne_nil e rest)

/-- **A record**, in a table in which no MAC is twice. -/
theorem record_queue (shape : Shape t front back) (nodup : (macs t).Nodup) (c : Mac × Str) :
    (∃ front' back', Shape (record t c) front' back') ∧
      queue (record t c) = put 8 (queue t) (stored c) := by
  have size := shape.length
  cases own : t.tbl.toList.findIdx? (Entry.has c.1) with
  | some slot =>
      have written : record t c = ⟨t.tbl.setIfInBounds slot (.filled c), t.next⟩ := by
        rw [record, own]
      obtain ⟨inside, same⟩ := shape.find own
      have shape' := shape.overwrite inside c t.next shape.start
      have there : (stored c).1 ∈ keys (queue t) :=
        mem_macs_queue.mpr (shape.mem_macs_iff.mpr ⟨_, List.getElem_mem inside, same⟩)
      rw [macs, shape.entries_eq] at nodup
      have changed := set_eq_map (c := stored c) (i := slot) nodup (by rwa [List.length_map])
        (by rw [List.getElem_map]; exact same)
      rw [written]
      refine ⟨⟨_, _, shape'⟩, ?_⟩
      rw [put, if_pos there, queue, shape'.entries_eq, queue, shape.entries_eq, List.map_set,
        List.map_rotate, ← changed]
      rfl
  | none =>
      have new : (stored c).1 ∉ keys (queue t) := by
        rw [mem_macs_queue]
        exact shape.find_none.mp own
      have free := shape.find_free
      rw [put_of_notMem new, length_queue shape]
      cases back with
      | cons e rest =>
          have written : record t c = ⟨t.tbl.setIfInBounds front.length (.filled c), t.next⟩ := by
            rw [record, own]
            simp only [free, if_neg (List.cons_ne_nil e rest)]
          have start : t.next = 0 := shape.start (List.cons_ne_nil e rest)
          have shape' := shape.fill (c := c)
          rw [written]
          refine ⟨⟨_, _, shape'⟩, ?_⟩
          rw [List.length_cons] at size
          rw [if_pos (by omega), queue, shape'.entries_eq, queue, shape.entries_eq, start]
          show List.rotate _ 0 = List.rotate _ 0 ++ _
          rw [List.rotate_zero, List.rotate_zero, List.map_append]
          rfl
      | nil =>
          have written :
              record t c = ⟨t.tbl.setIfInBounds t.next (.filled c), t.next + 1⟩ := by
            rw [record, own]
            simp only [free, if_true]
          rw [List.length_nil, Nat.add_zero] at size
          have inside : (t.next : Nat) < front.length := by
            rw [size]
            exact t.next.isLt
          have shape' := shape.overwrite inside c (t.next + 1) fun some_ => absurd rfl some_
          rw [written]
          refine ⟨⟨_, _, shape'⟩, ?_⟩
          -- the victim was the oldest entry, and is the youngest now
          have step := rotate_set_succ (front.map Entry.pair) (by rwa [List.length_map]) (stored c)
          have wrap : ((t.next + 1 : Fin 8) : Nat) =
              (t.next + 1) % ((front.map Entry.pair).set t.next (stored c)).length := by
            rw [List.length_set, List.length_map, size, Fin.val_add]
            rfl
          rw [if_neg (by omega), queue, shape'.entries_eq, queue, shape.entries_eq, List.map_set, ← step]
          show List.rotate _ ((t.next + 1 : Fin 8) : Nat) = _
          rw [wrap]
          exact List.rotate_mod _ _

end Queue

/-! ## Sequences of records -/

/-- The table after some records, from the start. -/
def after (calls : List (Mac × Str)) : Table := calls.foldl record {}

/-- The MACs that are inserted: those that are not in the table when they are recorded. -/
def inserted (t : Table) : List (Mac × Str) → List Mac
  | [] => []
  | c :: rest => (if c.1 ∈ macs t then [] else [c.1]) ++ inserted (record t c) rest

section Run

variable {t : Table} {front back : List Entry} {mac : Mac}

/-- A run of the table is a run of the queue. -/
theorem run_queue (shape : Shape t front back) (nodup : (macs t).Nodup) (calls : List (Mac × Str)) :
    (∃ front' back', Shape (calls.foldl record t) front' back') ∧
      queue (calls.foldl record t) = (calls.map stored).foldl (put 8) (queue t) ∧
      inserted t calls = insertions 8 (queue t) (calls.map stored) := by
  induction calls generalizing t front back with
  | nil => exact ⟨⟨front, back, shape⟩, rfl, rfl⟩
  | cons c rest ih =>
      obtain ⟨⟨front', back', shape'⟩, step⟩ := record_queue shape nodup c
      have nodup' : (macs (record t c)).Nodup := by
        rw [← nodup_queue, step]
        exact nodup_put (nodup_queue.mpr nodup)
      obtain ⟨shaped, run, came⟩ := ih shape' nodup'
      rw [step] at run came
      refine ⟨shaped, run, ?_⟩
      have there : c.1 ∈ macs t ↔ (stored c).1 ∈ keys (queue t) := mem_macs_queue.symm
      rw [inserted, List.map_cons, insertions, came]
      simp only [there]
      rfl

/-- **The table follows its records.** -/
theorem follows (calls : List (Mac × Str)) :
    (∃ front back, Shape (after calls) front back) ∧
      Follows 8 (calls.map stored) (queue (after calls)) (inserted {} calls) := by
  have empty : queue {} = [] := rfl
  obtain ⟨shaped, run, came⟩ := run_queue shape_init List.nodup_nil calls
  refine ⟨shaped, ?_⟩
  rw [after, run, came, empty]
  exact follows_run (by decide) _

theorem lookup_eq (shape : Shape t front back) (nodup : (macs t).Nodup) (mac : Mac) (cap : Nat) :
    lookup t mac cap =
      match (queue t).lookup mac with
      | some name => (!name.bytes.isEmpty, copyOut cap name.bytes)
      | none => (false, copyOut cap []) := by
  cases found : t.tbl.toList.find? (Entry.has mac) with
  | none =>
      have gone : mac ∉ keys (queue t) := by
        rw [mem_macs_queue, shape.mem_macs_iff]
        rintro ⟨e, there, rfl⟩
        have mem : e ∈ t.tbl.toList := by
          rw [shape.split]
          exact List.mem_append_left back there
        apply List.find?_eq_none.mp found e mem
        simp [Entry.has, shape.used e there]
      rw [lookup, found, lookup_eq_none_of_notMem gone]
  | some e =>
      have own : Entry.has mac e = true := List.find?_some found
      have has := Bool.and_eq_true_iff.mp own
      have mem : (mac, e.name) ∈ queue t := by
        rw [queue, List.mem_rotate, entries, List.mem_map]
        refine ⟨e, List.mem_filter.mpr ⟨List.mem_of_find?_eq_some found, has.1⟩, ?_⟩
        rw [← beq_iff_eq.mp has.2]
        rfl
      rw [lookup, found, lookup_of_mem (nodup_queue.mpr nodup) mem]

variable (calls : List (Mac × Str))

theorem latest_stored (mac : Mac) :
    latest (calls.map stored) mac = (latest calls mac).map Text.copy :=
  latest_map Text.copy calls mac

theorem keys_stored : keys (calls.map stored) = calls.map Prod.fst := by
  rw [keys, List.map_map]
  rfl

/-- The MACs that are there are the last that were inserted. -/
theorem macs_after_perm :
    (macs (after calls)).Perm
      ((inserted {} calls).rtake (min 8 (calls.map Prod.fst).dedup.length)) := by
  have last := (follows calls).2.last_distinct
  rw [keys_stored] at last
  rw [← last, macs, keys, keys, queue, List.map_rotate]
  exact (List.rotate_perm _ _).symm

/-- An entry has the name of the last record of its MAC. -/
theorem name_of_mem_entries {e : Mac × Text 32} (mem : e ∈ entries (after calls)) :
    ∃ name, latest calls e.1 = some name ∧ e.2 = Text.copy name := by
  have own := (follows calls).2.values e (by rwa [queue, List.mem_rotate])
  rw [latest_stored] at own
  obtain ⟨name, last, same⟩ := Option.map_eq_some_iff.mp own
  exact ⟨name, last, same.symm⟩

theorem mem_of_latest {name : Str} (last : latest calls mac = some name) :
    mac ∈ calls.map Prod.fst := by
  have found : (calls.reverse.lookup mac).isSome := by
    rw [← latest, last]
    rfl
  rw [lookup_isSome_iff_mem_keys, keys, List.map_reverse, List.mem_reverse] at found
  exact found

/-- The name of a MAC that is there. -/
theorem lookup_after {name : Str} {cap : Nat} (some_ : 0 < cap) (last : latest calls mac = some name)
    (few : (since mac (inserted {} calls)).dedup.length < 8) :
    lookup (after calls) mac cap =
      (!(name.val.take 31).isEmpty, some ((name.val.take 31).take (cap - 1))) := by
  obtain ⟨⟨front, back, shape⟩, follows⟩ := follows calls
  have known : mac ∈ keys (calls.map stored) := by
    rw [keys_stored]
    exact mem_of_latest calls last
  have found := follows.lookup_eq mac
  rw [if_pos ⟨known, few⟩, latest_stored, last] at found
  rw [lookup_eq shape (nodup_queue.mp follows.nodup), found]
  show (_, copyOut cap _) = _
  rw [copyOut, if_neg some_.ne']
  rfl

/-- And of one that is not. -/
theorem lookup_after_of_notMem {cap : Nat} (some_ : 0 < cap) (gone : mac ∉ macs (after calls)) :
    lookup (after calls) mac cap = (false, some []) := by
  obtain ⟨⟨front, back, shape⟩, follows⟩ := follows calls
  rw [← mem_macs_queue] at gone
  rw [lookup_eq shape (nodup_queue.mp follows.nodup), lookup_eq_none_of_notMem gone]
  show (_, copyOut cap _) = _
  rw [copyOut, if_neg some_.ne', List.take_nil]

end Run

/-- **The registry.** After any records the used entries have different MACs. These are the last that
were inserted, eight or as many as there are, each with the name of its last record; and the
lookup finds this name, unless eight other MACs were inserted since. -/
theorem registry (calls : List (Mac × Str)) :
    (macs (after calls)).Nodup ∧
      (macs (after calls)).Perm
        ((inserted {} calls).rtake (min 8 (calls.map Prod.fst).dedup.length)) ∧
      (∀ e ∈ entries (after calls), ∃ name, latest calls e.1 = some name ∧ e.2 = Text.copy name) ∧
      ∀ (mac : Mac) (cap : Nat), 0 < cap →
        (∀ name, latest calls mac = some name →
          (since mac (inserted {} calls)).dedup.length < 8 →
            lookup (after calls) mac cap =
              (!(name.val.take 31).isEmpty, some ((name.val.take 31).take (cap - 1)))) ∧
        (8 ≤ (since mac (inserted {} calls)).dedup.length → mac ∉ macs (after calls)) ∧
        (mac ∉ macs (after calls) → lookup (after calls) mac cap = (false, some [])) := by
  obtain ⟨-, follows⟩ := follows calls
  refine ⟨nodup_queue.mp follows.nodup, macs_after_perm calls, fun e mem => name_of_mem_entries calls mem, ?_⟩
  intro mac cap some_
  refine ⟨fun name last few => lookup_after calls some_ last few, fun many there => ?_,
    fun gone => lookup_after_of_notMem calls some_ gone⟩
  rw [← mem_macs_queue, follows.mem_keys_iff] at there
  exact Nat.not_lt.mpr many there.2

theorem nul_notMem_phone : (0 : UInt8) ∉ ascii "phone" := by decide

theorem nul_notMem_tablet : (0 : UInt8) ∉ ascii "tablet" := by decide

def device (k : UInt8) : Mac := ⟨k, 0, 0, 0, 0, 0⟩

/-- Nine phones, of which one is named again. -/
def ninePhones : List (Mac × Str) :=
  [0, 1, 2, 3, 4, 5, 6, 7, 8].map (fun k => (device k, ⟨ascii "phone", nul_notMem_phone⟩)) ++
    [(device 4, ⟨ascii "tablet", nul_notMem_tablet⟩)]

/-- The first one has made room for the last. -/
theorem registry_renamed :
    lookup (after ninePhones) (device 4) 32 = (true, some (ascii "tablet")) ∧
      lookup (after ninePhones) (device 0) 32 = (false, some []) := by
  obtain ⟨-, -, -, found⟩ := registry ninePhones
  have renamed := (found (device 4) 32 (by decide)).1 ⟨ascii "tablet", nul_notMem_tablet⟩ rfl
    (by decide)
  have evicted := (found (device 0) 32 (by decide)).2.1 (by decide)
  exact ⟨renamed.trans rfl, (found (device 0) 32 (by decide)).2.2 evicted⟩

end NimbleProxy.DhcpsHostname.Registry
