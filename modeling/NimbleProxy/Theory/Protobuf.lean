/-
# Theory.Protobuf -- the proto3 wire format of a message and its size

A message is the concatenation of its fields in the order of their numbers. A
field is a tag (number and wire type) and a varint, or a tag, a length and that
many bytes. A scalar field that holds zero is left out, and so is a repeated
field without elements; the elements of a repeated scalar are packed into one
length-delimited field, those of a repeated message are one such field each.

For every way to write a field there is its size and the lemma that the field has
that size, so that the size of a whole message is computed without writing it.
-/
import NimbleProxy.Theory.Varint

namespace NimbleProxy.Theory.Protobuf

set_option autoImplicit false

/-- Wire types: a varint, and bytes with their length in front. -/
inductive WireType
  | varint | len

def WireType.code : WireType → Nat
  | .varint => 0
  | .len => 2

def tag (field : Nat) (wire : WireType) : List UInt8 :=
  Varint.encode (8 * field + wire.code)

/-- A scalar field; zero is the default and not written. -/
def varintField (field value : Nat) : List UInt8 :=
  if value = 0 then [] else tag field .varint ++ Varint.encode value

/-- A length-delimited field. -/
def lenField (field : Nat) (bytes : List UInt8) : List UInt8 :=
  tag field .len ++ Varint.encode bytes.length ++ bytes

/-- The number that a `sint32` or `sint64` is written as: the sign is the lowest bit. -/
def zigzag (v : Int) : Nat :=
  if 0 ≤ v then 2 * v.toNat else 2 * (-v).toNat - 1

def sintField (field : Nat) (v : Int) : List UInt8 :=
  varintField field (zigzag v)

/-- A scalar of bytes; the empty string is the default and not written. -/
def bytesField (field : Nat) (bytes : List UInt8) : List UInt8 :=
  if bytes = [] then [] else lenField field bytes

/-- A repeated scalar. -/
def packedField (field : Nat) (values : List Nat) : List UInt8 :=
  if values = [] then [] else lenField field (values.flatMap Varint.encode)

/-- A repeated message, from its encoded elements. -/
def repeatedField (field : Nat) (elements : List (List UInt8)) : List UInt8 :=
  elements.flatMap (lenField field)

/-! ## Sizes -/

def tagSize (field : Nat) (wire : WireType) : Nat :=
  Varint.size (8 * field + wire.code)

def varintFieldSize (field value : Nat) : Nat :=
  if value = 0 then 0 else tagSize field .varint + Varint.size value

def lenFieldSize (field size : Nat) : Nat :=
  tagSize field .len + Varint.size size + size

def packedFieldSize (field : Nat) (values : List Nat) : Nat :=
  if values = [] then 0 else lenFieldSize field (values.map Varint.size).sum

def repeatedFieldSize (field : Nat) (sizes : List Nat) : Nat :=
  (sizes.map (lenFieldSize field)).sum

theorem length_varintField (field value : Nat) :
    (varintField field value).length = varintFieldSize field value := by
  unfold varintField varintFieldSize
  split
  · rfl
  · rw [List.length_append, tag, Varint.length_encode, Varint.length_encode, tagSize]

theorem length_lenField (field : Nat) (bytes : List UInt8) :
    (lenField field bytes).length = lenFieldSize field bytes.length := by
  rw [lenField, lenFieldSize, List.length_append, List.length_append, tag, tagSize,
    Varint.length_encode, Varint.length_encode]

theorem length_packedField (field : Nat) (values : List Nat) :
    (packedField field values).length = packedFieldSize field values := by
  unfold packedField packedFieldSize
  split
  · rfl
  · rw [length_lenField, List.length_flatMap]
    exact congrArg _ (congrArg List.sum (List.map_congr_left fun v _ => Varint.length_encode v))

theorem length_repeatedField (field : Nat) (elements : List (List UInt8)) :
    (repeatedField field elements).length =
      repeatedFieldSize field (elements.map List.length) := by
  unfold repeatedField repeatedFieldSize
  rw [List.length_flatMap, List.map_map]
  exact congrArg List.sum (List.map_congr_left fun bytes _ => length_lenField field bytes)

/-- A scalar field that fits `groups` varint bytes, with a one-byte tag. -/
theorem varintFieldSize_le (field value groups : Nat) (small : field < 16)
    (fits : value < 128 ^ (groups + 1)) : varintFieldSize field value ≤ groups + 2 := by
  unfold varintFieldSize
  split
  · exact Nat.zero_le _
  · have oneByte : tagSize field .varint ≤ 1 := by
      unfold tagSize
      rw [Varint.size_le_iff]
      simp only [WireType.code]
      omega
    have bytes := (Varint.size_le_iff value groups).mpr fits
    omega

theorem zigzag_lt {v : Int} {bound : Nat} (low : -bound ≤ v) (high : v < bound) :
    zigzag v < 2 * bound := by
  unfold zigzag
  split <;> omega

/-- Up to 127 bytes, with a tag and a length of one byte each. -/
theorem lenFieldSize_le (field size : Nat) (small : field < 16) (fits : size < 128) :
    lenFieldSize field size ≤ size + 2 := by
  have oneByte : tagSize field .len ≤ 1 := by
    unfold tagSize
    rw [Varint.size_le_iff]
    simp only [WireType.code]
    omega
  have length := (Varint.size_le_iff size 0).mpr fits
  unfold lenFieldSize
  omega

theorem length_bytesField_le (field : Nat) (bytes : List UInt8) (small : field < 16)
    (fits : bytes.length < 128) : (bytesField field bytes).length ≤ bytes.length + 2 := by
  unfold bytesField
  split
  · exact Nat.zero_le _
  · rw [length_lenField]
    exact lenFieldSize_le field bytes.length small fits

/-- Elements of at most `size` bytes. -/
theorem length_repeatedField_le {field size : Nat} {elements : List (List UInt8)}
    (small : field < 16) (fits : size < 128) (bounded : ∀ bytes ∈ elements, bytes.length ≤ size) :
    (repeatedField field elements).length ≤ elements.length * (size + 2) := by
  induction elements with
  | nil => exact Nat.zero_le _
  | cons bytes rest ih =>
      have first := bounded bytes List.mem_cons_self
      have later := ih fun b mem => bounded b (List.mem_cons_of_mem _ mem)
      have element := lenFieldSize_le field bytes.length small (by omega)
      have split : (repeatedField field (bytes :: rest)).length =
          lenFieldSize field bytes.length + (repeatedField field rest).length := by
        rw [repeatedField, List.flatMap_cons, List.length_append, length_lenField, repeatedField]
      rw [split, List.length_cons, Nat.succ_mul]
      omega

theorem varintField_ne_nil {field value : Nat} (set : value ≠ 0) : varintField field value ≠ [] := by
  unfold varintField
  rw [if_neg set]
  simp [Varint.encode_ne_nil]

end NimbleProxy.Theory.Protobuf
