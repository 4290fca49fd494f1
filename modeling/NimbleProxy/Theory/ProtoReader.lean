/-
# Theory.ProtoReader -- taking a proto3 message apart

`fields` reads a byte string as a sequence of numbered payloads, in the order in which
they stand, or refuses it. A message type is then a function of its fields: `number` and
`content` are the last value given for a scalar, with the default of proto3 when there is
none, `contents` are the elements of a repeated message, `scalars` those of a repeated
number, packed or one by one.

`Writes bytes fs` says that a reader finds `fs` in `bytes` wherever they stand in a
message. It composes along `++` as the writers of `Theory.Protobuf` do, so that the
fields of a whole message are read off the definition of its encoder.
-/
import NimbleProxy.Theory.Protobuf

namespace NimbleProxy.Theory.Protobuf

set_option autoImplicit false

/-- What a field carries. -/
inductive Payload
  | varint (value : Nat)
  | fixed (bytes : List UInt8)
  | bytes (bytes : List UInt8)
  deriving DecidableEq

/-- A field number and its payload. -/
abbrev Field := Nat × Payload

/-! ## Reading -/

/-- The first `n` bytes, if there are as many, and what follows them. -/
def cut (n : Nat) (bytes : List UInt8) : Option (List UInt8 × List UInt8) :=
  if n ≤ bytes.length then some (bytes.take n, bytes.drop n) else none

/-- A number of at most ten groups, of which 64 bits count. -/
def readVarint (bytes : List UInt8) : Option (Nat × List UInt8) :=
  match Varint.scan 10 bytes with
  | .done v rest => some (v % 2 ^ 64, rest)
  | _ => none

/-- The payload of a field with this wire type; groups (3 and 4) are no part of proto3. -/
def readPayload (wire : Nat) (bytes : List UInt8) : Option (Payload × List UInt8) :=
  match wire with
  | 0 => (readVarint bytes).map fun (v, rest) => (.varint v, rest)
  | 1 => (cut 8 bytes).map fun (b, rest) => (.fixed b, rest)
  | 2 => (readVarint bytes).bind fun (n, rest) =>
      (cut n rest).map fun (b, rest) => (.bytes b, rest)
  | 5 => (cut 4 bytes).map fun (b, rest) => (.fixed b, rest)
  | _ => none

/-- The field in front. There is no field 0. -/
def readField (bytes : List UInt8) : Option (Field × List UInt8) :=
  (readVarint bytes).bind fun (key, rest) =>
    if key / 8 = 0 then none
    else (readPayload (key % 8) rest).map fun (p, rest) => ((key / 8, p), rest)

/-- At most `fuel` fields; every field takes at least a byte. -/
def readFields : Nat → List UInt8 → Option (List Field)
  | _, [] => some []
  | 0, _ :: _ => none
  | fuel + 1, b :: bytes =>
      (readField (b :: bytes)).bind fun (f, rest) => (readFields fuel rest).map (f :: ·)

/-- The fields of a message. -/
def fields (bytes : List UInt8) : Option (List Field) :=
  readFields bytes.length bytes

/-! ## Every field takes a byte -/

section

variable {bytes rest : List UInt8}

theorem length_of_cut {n : Nat} {front : List UInt8} (split : cut n bytes = some (front, rest)) :
    rest.length ≤ bytes.length := by
  unfold cut at split
  split at split
  · cases split
    simp
  · cases split

theorem length_of_readVarint {v : Nat} (read : readVarint bytes = some (v, rest)) :
    rest.length < bytes.length := by
  unfold readVarint at read
  split at read
  · rename_i w after scanned
    cases read
    obtain ⟨digits, rfl, isVarint⟩ := Varint.scan_done_iff.mp scanned
    obtain ⟨body, last, rfl, -⟩ := isVarint.shape
    simp only [List.length_append, List.length_singleton]
    omega
  · cases read

theorem length_of_readPayload {wire : Nat} {p : Payload}
    (read : readPayload wire bytes = some (p, rest)) : rest.length ≤ bytes.length := by
  unfold readPayload at read
  split at read
  · obtain ⟨⟨v, after⟩, number, same⟩ := Option.map_eq_some_iff.mp read
    cases same
    exact (length_of_readVarint number).le
  · obtain ⟨⟨b, after⟩, eight, same⟩ := Option.map_eq_some_iff.mp read
    cases same
    exact length_of_cut eight
  · obtain ⟨⟨n, after⟩, number, inner⟩ := Option.bind_eq_some_iff.mp read
    obtain ⟨⟨b, last⟩, front, same⟩ := Option.map_eq_some_iff.mp inner
    cases same
    exact (length_of_cut front).trans (length_of_readVarint number).le
  · obtain ⟨⟨b, after⟩, four, same⟩ := Option.map_eq_some_iff.mp read
    cases same
    exact length_of_cut four
  · cases read

theorem length_of_readField {f : Field} (read : readField bytes = some (f, rest)) :
    rest.length < bytes.length := by
  obtain ⟨⟨key, after⟩, number, inner⟩ := Option.bind_eq_some_iff.mp read
  simp only at inner
  split at inner
  · cases inner
  · obtain ⟨⟨p, last⟩, payload, same⟩ := Option.map_eq_some_iff.mp inner
    cases same
    exact (length_of_readPayload payload).trans_lt (length_of_readVarint number)

/-- Fuel for every byte is enough. -/
theorem readFields_fuel {fuel : Nat} (enough : bytes.length ≤ fuel) :
    readFields fuel bytes = fields bytes := by
  unfold fields
  induction fuel using Nat.strong_induction_on generalizing bytes with
  | _ fuel ih =>
      cases bytes with
      | nil => cases fuel <;> rfl
      | cons b bytes =>
          obtain ⟨fuel, rfl⟩ : ∃ n, fuel = n + 1 := ⟨fuel - 1, by simp at enough; omega⟩
          rw [List.length_cons, Nat.add_le_add_iff_right] at enough
          rw [List.length_cons, readFields, readFields]
          cases read : readField (b :: bytes) with
          | none => rfl
          | some found =>
              obtain ⟨f, rest⟩ := found
              have shorter := length_of_readField read
              rw [List.length_cons] at shorter
              -- both are the reading of `rest` with a byte of fuel for each of its bytes
              have here : readFields fuel rest = readFields rest.length rest :=
                ih fuel (by omega) (by omega)
              have full : readFields bytes.length rest = readFields rest.length rest := by
                by_cases same : bytes.length = fuel
                · rw [same]
                  exact here
                · exact ih bytes.length (by omega) (by omega)
              simp only [Option.bind_some, here, full]

@[simp] theorem fields_nil : fields [] = some [] := rfl

/-- The first field, and those of the rest. -/
theorem fields_cons {f : Field} (read : readField bytes = some (f, rest)) :
    fields bytes = (fields rest).map (f :: ·) := by
  have shorter := length_of_readField read
  cases bytes with
  | nil => simp at shorter
  | cons b bytes =>
      rw [List.length_cons] at shorter
      rw [fields, List.length_cons, readFields, read, Option.bind_some]
      show (readFields bytes.length rest).map (f :: ·) = _
      rw [readFields_fuel (by omega)]

end

/-! ## What the writers write -/

theorem size_le_ten {n : Nat} (small : n < 2 ^ 64) : Varint.size n ≤ 10 :=
  (Varint.size_le_iff n 9).mpr (small.trans (by decide))

theorem readVarint_encode {n : Nat} (small : n < 2 ^ 64) (rest : List UInt8) :
    readVarint (Varint.encode n ++ rest) = some (n, rest) := by
  rw [readVarint, Varint.scan_encode n 10 rest (size_le_ten small)]
  simp only [Nat.mod_eq_of_lt small]

theorem cut_append (front rest : List UInt8) :
    cut front.length (front ++ rest) = some (front, rest) := by
  simp [cut]

section

variable {k : Nat}

theorem key_lt (small : k < 2 ^ 29) (wire : WireType) : 8 * k + wire.code < 2 ^ 64 := by
  cases wire <;> simp only [WireType.code] <;> omega

/-- A scalar field that is written is read. -/
theorem readField_varint {v : Nat} (pos : 0 < k) (small : k < 2 ^ 29) (fits : v < 2 ^ 64)
    (rest : List UInt8) :
    readField (tag k .varint ++ Varint.encode v ++ rest) = some ((k, .varint v), rest) := by
  rw [readField, tag, List.append_assoc, readVarint_encode (key_lt small _), Option.bind_some]
  simp only [WireType.code, Nat.add_zero, Nat.mul_mod_right, readPayload, readVarint_encode fits,
    Option.map_some]
  rw [Nat.mul_div_cancel_left k (by decide), if_neg (by omega)]

/-- So is one of bytes. -/
theorem readField_len {b : List UInt8} (pos : 0 < k) (small : k < 2 ^ 29)
    (fits : b.length < 2 ^ 64) (rest : List UInt8) :
    readField (lenField k b ++ rest) = some ((k, .bytes b), rest) := by
  have wire : (8 * k + 2) % 8 = 2 := by omega
  have number : (8 * k + 2) / 8 = k := by omega
  rw [readField, lenField, tag, List.append_assoc, List.append_assoc,
    readVarint_encode (key_lt small _), Option.bind_some]
  simp only [WireType.code, wire, number, readPayload, readVarint_encode fits, Option.bind_some,
    cut_append, Option.map_some]
  rw [if_neg (by omega)]

end

/-- Wherever `bytes` stand in a message, a reader finds `fs` there. -/
def Writes (bytes : List UInt8) (fs : List Field) : Prop :=
  ∀ rest, fields (bytes ++ rest) = (fields rest).map (fs ++ ·)

namespace Writes

variable {bytes bytes' : List UInt8} {fs fs' : List Field}

theorem nil : Writes [] [] := by
  intro rest
  simp

theorem append (first : Writes bytes fs) (second : Writes bytes' fs') :
    Writes (bytes ++ bytes') (fs ++ fs') := by
  intro rest
  rw [List.append_assoc, first, second, Option.map_map]
  congr 1
  funext more
  simp

theorem one {f : Field} (read : ∀ rest, readField (bytes ++ rest) = some (f, rest)) :
    Writes bytes [f] := by
  intro rest
  rw [fields_cons (read rest)]
  rfl

/-- A message that is only these bytes has these fields. -/
theorem fields_eq (writes : Writes bytes fs) : fields bytes = some fs := by
  have whole := writes []
  simpa using whole

end Writes

/-! ## The fields of each writer -/

/-- A value that is not the default is given. -/
def given {α : Type} [DecidableEq α] (default_ v : α) : List α :=
  if v = default_ then [] else [v]

@[simp] theorem getLast?_given {α : Type} [DecidableEq α] (default_ v : α) :
    (given default_ v).getLast?.getD default_ = v := by
  unfold given
  split
  · symm
    assumption
  · rfl

/-- The field that `varintField` writes. -/
def varintFields (k v : Nat) : List Field := (given 0 v).map fun v => (k, .varint v)

/-- The field that `bytesField` writes. -/
def bytesFields (k : Nat) (b : List UInt8) : List Field := (given [] b).map fun b => (k, .bytes b)

/-- The field that `packedField` writes. -/
def packedFields (k : Nat) (vs : List Nat) : List Field :=
  (given [] vs).map fun vs => (k, .bytes (vs.flatMap Varint.encode))

/-- The fields that `repeatedField` writes. -/
def repeatedFields (k : Nat) (es : List (List UInt8)) : List Field :=
  es.map fun e => (k, .bytes e)

section

variable {k : Nat}

theorem writes_varintField {v : Nat} (pos : 0 < k) (small : k < 2 ^ 29) (fits : v < 2 ^ 64) :
    Writes (varintField k v) (varintFields k v) := by
  unfold varintField varintFields given
  split
  · exact Writes.nil
  · exact Writes.one (readField_varint pos small fits)

theorem writes_bytesField {b : List UInt8} (pos : 0 < k) (small : k < 2 ^ 29)
    (fits : b.length < 2 ^ 64) : Writes (bytesField k b) (bytesFields k b) := by
  unfold bytesField bytesFields given
  split
  · exact Writes.nil
  · exact Writes.one (readField_len pos small fits)

theorem writes_packedField {vs : List Nat} (pos : 0 < k) (small : k < 2 ^ 29)
    (fits : (vs.flatMap Varint.encode).length < 2 ^ 64) :
    Writes (packedField k vs) (packedFields k vs) := by
  unfold packedField packedFields given
  split
  · exact Writes.nil
  · exact Writes.one (readField_len pos small fits)

theorem writes_repeatedField {es : List (List UInt8)} (pos : 0 < k) (small : k < 2 ^ 29)
    (fits : ∀ e ∈ es, e.length < 2 ^ 64) :
    Writes (repeatedField k es) (repeatedFields k es) := by
  induction es with
  | nil => exact Writes.nil
  | cons e es ih =>
      have first : Writes (lenField k e) [(k, .bytes e)] :=
        Writes.one (readField_len pos small (fits e List.mem_cons_self))
      have later := ih fun e' inside => fits e' (List.mem_cons_of_mem _ inside)
      exact first.append later

end

/-! ## Signed numbers -/

/-- The number that was written as `n`. -/
def unzigzag (n : Nat) : Int :=
  if n % 2 = 0 then (n / 2 : Nat) else -((n / 2 : Nat) : Int) - 1

@[simp] theorem unzigzag_zigzag (v : Int) : unzigzag (zigzag v) = v := by
  unfold unzigzag zigzag
  split <;> split <;> omega

/-! ## A message from its fields -/

/-- The numbers given for field `k`. -/
def numbers (k : Nat) (fs : List Field) : List Nat :=
  fs.filterMap fun f => match f with
    | (j, .varint v) => if j = k then some v else none
    | _ => none

/-- The byte strings given for field `k`: the elements of a repeated message. -/
def contents (k : Nat) (fs : List Field) : List (List UInt8) :=
  fs.filterMap fun f => match f with
    | (j, .bytes b) => if j = k then some b else none
    | _ => none

/-- A scalar: the last value counts. -/
def number (k : Nat) (fs : List Field) : Nat := (numbers k fs).getLast?.getD 0

/-- A string: the last value counts. -/
def content (k : Nat) (fs : List Field) : List UInt8 := (contents k fs).getLast?.getD []

/-- At most `fuel` numbers in a row. -/
def readNumbers : Nat → List UInt8 → Option (List Nat)
  | _, [] => some []
  | 0, _ :: _ => none
  | fuel + 1, b :: bytes =>
      (readVarint (b :: bytes)).bind fun (v, rest) => (readNumbers fuel rest).map (v :: ·)

/-- The numbers of a packed field. -/
def unpack (bytes : List UInt8) : Option (List Nat) := readNumbers bytes.length bytes

/-- The elements of a repeated number that one field gives. -/
def Payload.numbers : Payload → Option (List Nat)
  | .varint v => some [v]
  | .bytes b => unpack b
  | .fixed _ => none

/-- A repeated number: packed, or one field for each. -/
def scalars (k : Nat) (fs : List Field) : Option (List Nat) :=
  fs.foldr (fun f later =>
    if f.1 = k then f.2.numbers.bind fun vs => later.map (vs ++ ·) else later) (some [])

/-- Every number takes a byte, so fuel for every byte is enough. -/
theorem readNumbers_encode {vs : List Nat} (small : ∀ v ∈ vs, v < 2 ^ 64) {fuel : Nat}
    (enough : (vs.flatMap Varint.encode).length ≤ fuel) :
    readNumbers fuel (vs.flatMap Varint.encode) = some vs := by
  induction vs generalizing fuel with
  | nil => cases fuel <;> rfl
  | cons v vs ih =>
      have pos := Varint.size_pos v
      rw [List.flatMap_cons, List.length_append, Varint.length_encode] at enough
      obtain ⟨fuel, rfl⟩ : ∃ n, fuel = n + 1 := ⟨fuel - 1, by omega⟩
      have read := readVarint_encode (small v List.mem_cons_self) (vs.flatMap Varint.encode)
      have later : readNumbers fuel (vs.flatMap Varint.encode) = some vs :=
        ih (fun w inside => small w (List.mem_cons_of_mem _ inside)) (by omega)
      rw [List.flatMap_cons]
      cases shape : Varint.encode v ++ vs.flatMap Varint.encode with
      | nil => exact absurd (List.append_eq_nil_iff.mp shape).1 (Varint.encode_ne_nil v)
      | cons b bytes =>
          rw [readNumbers, ← shape, read, Option.bind_some]
          show (readNumbers fuel (vs.flatMap Varint.encode)).map (v :: ·) = _
          rw [later, Option.map_some]

theorem unpack_encode {vs : List Nat} (small : ∀ v ∈ vs, v < 2 ^ 64) :
    unpack (vs.flatMap Varint.encode) = some vs :=
  readNumbers_encode small le_rfl

/-! ## Reading back what was written -/

section

variable {k j : Nat} {fs gs : List Field}

@[simp] theorem numbers_append : numbers k (fs ++ gs) = numbers k fs ++ numbers k gs :=
  List.filterMap_append

@[simp] theorem contents_append : contents k (fs ++ gs) = contents k fs ++ contents k gs :=
  List.filterMap_append

@[simp] theorem numbers_varintFields (v : Nat) : numbers k (varintFields k v) = given 0 v := by
  simp [numbers, varintFields, List.filterMap_map]

@[simp] theorem numbers_varintFields_other (v : Nat) (other : j ≠ k) :
    numbers k (varintFields j v) = [] := by
  simp [numbers, varintFields, List.filterMap_map, other]

@[simp] theorem numbers_bytesFields (b : List UInt8) : numbers k (bytesFields j b) = [] := by
  simp [numbers, bytesFields, List.filterMap_map]

@[simp] theorem numbers_packedFields (vs : List Nat) : numbers k (packedFields j vs) = [] := by
  simp [numbers, packedFields, List.filterMap_map]

@[simp] theorem numbers_repeatedFields (es : List (List UInt8)) :
    numbers k (repeatedFields j es) = [] := by
  simp [numbers, repeatedFields, List.filterMap_map]

@[simp] theorem contents_varintFields (v : Nat) : contents k (varintFields j v) = [] := by
  simp [contents, varintFields, List.filterMap_map]

@[simp] theorem contents_bytesFields (b : List UInt8) :
    contents k (bytesFields k b) = given [] b := by
  simp [contents, bytesFields, List.filterMap_map]

@[simp] theorem contents_bytesFields_other (b : List UInt8) (other : j ≠ k) :
    contents k (bytesFields j b) = [] := by
  simp [contents, bytesFields, List.filterMap_map, other]

@[simp] theorem contents_packedFields_other (vs : List Nat) (other : j ≠ k) :
    contents k (packedFields j vs) = [] := by
  simp [contents, packedFields, List.filterMap_map, other]

@[simp] theorem contents_repeatedFields (es : List (List UInt8)) :
    contents k (repeatedFields k es) = es := by
  simp [contents, repeatedFields, List.filterMap_map]

theorem scalars_append :
    scalars k (fs ++ gs) = (scalars k fs).bind fun vs => (scalars k gs).map (vs ++ ·) := by
  induction fs with
  | nil =>
      show scalars k gs = (scalars k gs).map ([] ++ ·)
      simp
  | cons f fs ih =>
      simp only [scalars, List.cons_append, List.foldr_cons] at ih ⊢
      rw [ih]
      split
      · cases f.2.numbers with
        | none => rfl
        | some vs => cases List.foldr _ (some []) fs <;> simp [Option.map_map, Function.comp_def]
      · rfl

/-- Fields with other numbers give no elements. -/
theorem scalars_other (others : ∀ f ∈ fs, f.1 ≠ k) : scalars k fs = some [] := by
  induction fs with
  | nil => rfl
  | cons f fs ih =>
      have later := ih fun g inside => others g (List.mem_cons_of_mem _ inside)
      rw [scalars, List.foldr_cons, if_neg (others f List.mem_cons_self)]
      exact later

@[simp] theorem scalars_varintFields_other (v : Nat) (other : j ≠ k) :
    scalars k (varintFields j v) = some [] := by
  apply scalars_other
  intro f inside
  obtain ⟨w, -, rfl⟩ := List.mem_map.mp inside
  exact other

@[simp] theorem scalars_repeatedFields_other (es : List (List UInt8)) (other : j ≠ k) :
    scalars k (repeatedFields j es) = some [] := by
  apply scalars_other
  intro f inside
  obtain ⟨e, -, rfl⟩ := List.mem_map.mp inside
  exact other

theorem scalars_packedFields {vs : List Nat} (small : ∀ v ∈ vs, v < 2 ^ 64) :
    scalars k (packedFields k vs) = some vs := by
  unfold packedFields given
  split
  · rename_i empty
    rw [empty]
    rfl
  · simp [scalars, Payload.numbers, unpack_encode small]

end

/-! ## Parts are no longer than the whole -/

section

variable {k : Nat}

theorem length_le_packedField (vs : List Nat) :
    (vs.flatMap Varint.encode).length ≤ (packedField k vs).length := by
  unfold packedField
  split
  · rename_i empty
    simp [empty]
  · rw [length_lenField]
    exact Nat.le_add_left ..

theorem length_le_repeatedField {es : List (List UInt8)} {e : List UInt8} (inside : e ∈ es) :
    e.length ≤ (repeatedField k es).length := by
  induction es with
  | nil => cases inside
  | cons first es ih =>
      have split : (repeatedField k (first :: es)).length =
          (lenField k first).length + (repeatedField k es).length := by
        simp [repeatedField]
      rw [split, length_lenField, lenFieldSize]
      rcases List.mem_cons.mp inside with rfl | later
      · omega
      · have here := ih later
        omega

end

/-- Elements that are read back one by one are read back together. -/
theorem mapM_encode {α : Type} {encode : α → List UInt8} {decode : List UInt8 → Option α}
    {xs : List α} (each : ∀ x ∈ xs, decode (encode x) = some x) :
    (xs.map encode).mapM decode = some xs := by
  induction xs with
  | nil => rfl
  | cons x xs ih =>
      have later := ih fun y inside => each y (List.mem_cons_of_mem _ inside)
      rw [List.map_cons, List.mapM_cons, each x List.mem_cons_self, later]
      rfl

end NimbleProxy.Theory.Protobuf
