/-
# Theory.TaggedObjects -- byte strings of tagged objects without separators

An object is an id and a payload. A table says for each id how long the payload is: so
many bytes, or as many as a byte in front of it says; an id that is not in the table ends
the string. Whoever reads with another table loses the boundaries of all objects behind
the first one that has another size there.

`next` takes the first object off a string and is right both ways (`next_encode`,
`next_eq_some`). `objects` goes on until it cannot; `objects_longest` says that nothing
longer can be read, whatever reads it.
-/
import Mathlib.Data.List.Infix
import Mathlib.Tactic.Common

namespace NimbleProxy.Theory.TaggedObjects

set_option autoImplicit false

/-- The length of a payload: fixed, or in the byte in front of it. -/
inductive Size
  | fixed (bytes : Nat)
  | prefixed
  deriving DecidableEq

abbrev Sizes := UInt8 → Option Size

structure Object where
  id : UInt8
  payload : List UInt8
  deriving DecidableEq

def Size.Fits : Size → Nat → Prop
  | .fixed bytes, length => length = bytes
  | .prefixed, length => length < 256

instance : (size : Size) → (length : Nat) → Decidable (size.Fits length)
  | .fixed _, _ => inferInstanceAs (Decidable (_ = _))
  | .prefixed, _ => inferInstanceAs (Decidable (_ < _))

/-- The object has an id of the table and a payload of its length. -/
def Object.Whole (sizes : Sizes) (o : Object) : Prop :=
  ∃ size ∈ sizes o.id, size.Fits o.payload.length

/-- What stands between the id and the payload. -/
def Size.header (length : Nat) : Size → List UInt8
  | .fixed _ => []
  | .prefixed => [UInt8.ofNat length]

def Object.encode (sizes : Sizes) (o : Object) : List UInt8 :=
  o.id :: (((sizes o.id).map (Size.header o.payload.length)).getD [] ++ o.payload)

def encodeAll (sizes : Sizes) (objs : List Object) : List UInt8 :=
  objs.flatMap (Object.encode sizes)

/-- The payload of `n` bytes in front of a string. -/
def takePayload (id : UInt8) (n : Nat) (rest : List UInt8) : Option (Object × List UInt8) :=
  if n ≤ rest.length then some (⟨id, rest.take n⟩, rest.drop n) else none

/-- The object in front of a string, and what is behind it. -/
def next (sizes : Sizes) : List UInt8 → Option (Object × List UInt8)
  | [] => none
  | id :: rest =>
      match sizes id, rest with
      | some (.fixed n), rest => takePayload id n rest
      | some .prefixed, n :: rest => takePayload id n.toNat rest
      | _, _ => none

variable {sizes : Sizes} {o : Object} {bytes rest : List UInt8} {objs : List Object}

theorem takePayload_append (id : UInt8) (payload rest : List UInt8) :
    takePayload id payload.length (payload ++ rest) = some (⟨id, payload⟩, rest) := by
  simp [takePayload]

theorem takePayload_eq_some {id : UInt8} {n : Nat}
    (taken : takePayload id n bytes = some (o, rest)) :
    o.id = id ∧ o.payload.length = n ∧ bytes = o.payload ++ rest := by
  unfold takePayload at taken
  split at taken
  · rename_i fits
    cases taken
    exact ⟨rfl, List.length_take_of_le fits, (List.take_append_drop n bytes).symm⟩
  · cases taken

/-- What is encoded is read. -/
theorem next_encode (whole : o.Whole sizes) (rest : List UInt8) :
    next sizes (o.encode sizes ++ rest) = some (o, rest) := by
  obtain ⟨size, isSize, fits⟩ := whole
  rw [Option.mem_def] at isSize
  unfold Object.encode
  rw [isSize]
  cases size with
  | fixed n =>
      obtain rfl : o.payload.length = n := fits
      simp only [Option.map_some, Size.header, Option.getD_some, List.nil_append, List.cons_append,
        next, isSize]
      exact takePayload_append o.id o.payload rest
  | prefixed =>
      have length : (UInt8.ofNat o.payload.length).toNat = o.payload.length := by
        rw [UInt8.toNat_ofNat']
        exact Nat.mod_eq_of_lt fits
      simp only [Option.map_some, Size.header, Option.getD_some, List.cons_append, List.nil_append,
        next, isSize, length]
      exact takePayload_append o.id o.payload rest

/-- Nothing else is read. -/
theorem next_eq_some (found : next sizes bytes = some (o, rest)) :
    o.Whole sizes ∧ bytes = o.encode sizes ++ rest := by
  cases bytes with
  | nil => cases found
  | cons id tail =>
      simp only [next] at found
      split at found
      · rename_i n _ isSize
        obtain ⟨rfl, length, rfl⟩ := takePayload_eq_some found
        refine ⟨⟨_, isSize, length⟩, ?_⟩
        simp [Object.encode, isSize, Size.header]
      · rename_i n tail isSize
        obtain ⟨rfl, length, rfl⟩ := takePayload_eq_some found
        have small : o.payload.length < 256 := length ▸ n.toNat_lt
        refine ⟨⟨_, isSize, small⟩, ?_⟩
        simp [Object.encode, isSize, Size.header, length]
      · cases found

theorem length_rest_lt (found : next sizes bytes = some (o, rest)) : rest.length < bytes.length := by
  rw [(next_eq_some found).2, Object.encode, List.cons_append, List.length_cons, List.length_append]
  omega

/-! ## Strings of objects -/

/-- The objects in front of a string, as far as it goes. -/
def objects (sizes : Sizes) (bytes : List UInt8) : List Object :=
  match _found : next sizes bytes with
  | none => []
  | some (o, rest) => o :: objects sizes rest
termination_by bytes.length
decreasing_by exact length_rest_lt _found

theorem objects_of_none (stuck : next sizes bytes = none) : objects sizes bytes = [] := by
  rw [objects]
  split
  · rfl
  · rename_i found
    rw [stuck] at found
    cases found

theorem objects_of_some (found : next sizes bytes = some (o, rest)) :
    objects sizes bytes = o :: objects sizes rest := by
  rw [objects]
  split
  · rename_i stuck
    rw [found] at stuck
    cases stuck
  · rename_i found'
    rw [found] at found'
    cases found'
    rfl

theorem objects_encodeAll (whole : ∀ o ∈ objs, o.Whole sizes) (rest : List UInt8) :
    objects sizes (encodeAll sizes objs ++ rest) = objs ++ objects sizes rest := by
  induction objs with
  | nil => rfl
  | cons o objs ih =>
      have first := next_encode (whole o List.mem_cons_self) (encodeAll sizes objs ++ rest)
      rw [encodeAll, List.flatMap_cons, List.append_assoc, ← encodeAll, objects_of_some first,
        ih fun o mem => whole o (List.mem_cons_of_mem _ mem), List.cons_append]

/-- These objects are in front of the string, and no longer sequence of objects is. -/
structure LongestPrefix (sizes : Sizes) (bytes : List UInt8) (objs : List Object) : Prop where
  whole : ∀ o ∈ objs, o.Whole sizes
  isPrefix : encodeAll sizes objs <+: bytes
  longest : ∀ objs', (∀ o ∈ objs', o.Whole sizes) → encodeAll sizes objs' <+: bytes → objs' <+: objs

/-- **Reading is maximal.** -/
theorem objects_longest (sizes : Sizes) (bytes : List UInt8) :
    LongestPrefix sizes bytes (objects sizes bytes) := by
  have reads : (∀ o ∈ objects sizes bytes, o.Whole sizes) ∧
      encodeAll sizes (objects sizes bytes) <+: bytes := by
    induction length : bytes.length using Nat.strongRecOn generalizing bytes with
    | ind n ih =>
        cases found : next sizes bytes with
        | none =>
            rw [objects_of_none found]
            exact ⟨nofun, List.nil_prefix⟩
        | some split =>
            obtain ⟨o, rest⟩ := split
            obtain ⟨whole, shape⟩ := next_eq_some found
            obtain ⟨later, isPrefix⟩ := ih rest.length (length ▸ length_rest_lt found) rest rfl
            rw [objects_of_some found]
            refine ⟨fun o' mem => ?_, ?_⟩
            · rcases List.mem_cons.mp mem with rfl | mem
              · exact whole
              · exact later o' mem
            · rw [shape, encodeAll, List.flatMap_cons, ← encodeAll, List.prefix_append_right_inj]
              exact isPrefix
  refine ⟨reads.1, reads.2, ?_⟩
  rintro objs' whole ⟨rest, rfl⟩
  rw [objects_encodeAll whole]
  exact List.prefix_append _ _

theorem LongestPrefix.eq_objects (longest : LongestPrefix sizes bytes objs) :
    objs = objects sizes bytes := by
  have reads := objects_longest sizes bytes
  have below := reads.longest objs longest.whole longest.isPrefix
  have above := longest.longest _ reads.whole reads.isPrefix
  exact below.eq_of_length_le above.length_le

end NimbleProxy.Theory.TaggedObjects
