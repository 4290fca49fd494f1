/-
# Theory.LittleEndian -- numbers in bytes, the least significant byte first

The value of a byte string, the bytes of a value, and what a program does to get it: it
shifts a byte beside what it has of the bytes below (`or_shiftLeft`). `two`, `three` and `four` are the
expressions for words of 16, 24 and 32 bits; a word of 64 bits is a fold over its bytes,
the most significant one first (`foldl_eight`).
-/
import Mathlib.Data.Nat.Digits.Lemmas
import Mathlib.Tactic.Ring

namespace NimbleProxy.Theory.LittleEndian

set_option autoImplicit false

/-- The number that the bytes spell. -/
def value (bytes : List UInt8) : Nat :=
  Nat.ofDigits 256 (bytes.map UInt8.toNat)

@[simp] theorem value_nil : value [] = 0 := rfl

@[simp] theorem value_cons (b : UInt8) (bytes : List UInt8) :
    value (b :: bytes) = b.toNat + 256 * value bytes := by
  simp [value, Nat.ofDigits_cons]

theorem value_append (low high : List UInt8) :
    value (low ++ high) = value low + 256 ^ low.length * value high := by
  simp [value, Nat.ofDigits_append]

theorem digits_lt (bytes : List UInt8) : ∀ d ∈ bytes.map UInt8.toNat, d < 256 := by
  intro d mem
  obtain ⟨b, -, rfl⟩ := List.mem_map.mp mem
  exact b.toNat_lt

theorem value_lt (bytes : List UInt8) : value bytes < 256 ^ bytes.length := by
  simpa [value] using Nat.ofDigits_lt_base_pow_length (by decide : 1 < 256) (digits_lt bytes)

/-- Strings of one length that spell one number are the same. -/
theorem value_inj {bytes bytes' : List UInt8} (length : bytes.length = bytes'.length)
    (same : value bytes = value bytes') : bytes = bytes' := by
  have digits := Nat.ofDigits_inj_of_len_eq (by decide : 1 < 256) (by simpa using length)
    (digits_lt bytes) (digits_lt bytes') same
  exact List.map_injective_iff.mpr (fun _ _ eq => UInt8.toNat_inj.mp eq) digits

/-- The low bytes of a number. -/
def bytes : Nat → Nat → List UInt8
  | 0, _ => []
  | length + 1, n => UInt8.ofNat n :: bytes length (n / 256)

@[simp] theorem length_bytes (length n : Nat) : (bytes length n).length = length := by
  induction length generalizing n with
  | zero => rfl
  | succ length ih => rw [bytes, List.length_cons, ih]

/-- The bytes are read back from the value. -/
theorem bytes_value (string : List UInt8) : bytes string.length (value string) = string := by
  induction string with
  | nil => rfl
  | cons b string ih =>
      have := b.toNat_lt
      have low : UInt8.ofNat (b.toNat + 256 * value string) = b := by
        apply UInt8.toNat_inj.mp
        rw [UInt8.toNat_ofNat']
        omega
      have high : (b.toNat + 256 * value string) / 256 = value string := by omega
      rw [value_cons, List.length_cons, bytes, low, high, ih]

/-- A byte beside the `k` bits below it. -/
theorem or_shiftLeft {low k : Nat} (below : low < 2 ^ k) (high : Nat) :
    low ||| (high <<< k) = low + 2 ^ k * high := by
  rw [Nat.or_comm, ← Nat.shiftLeft_add_eq_or_of_lt below, Nat.shiftLeft_eq, Nat.add_comm,
    Nat.mul_comm]

theorem two (a b : UInt8) : (a.toUInt16 ||| (b.toUInt16 <<< 8)).toNat = value [a, b] := by
  have := a.toNat_lt
  have := b.toNat_lt
  have shifted : (b.toUInt16 <<< 8).toNat = b.toNat <<< 8 := by
    rw [UInt16.toNat_shiftLeft, Nat.shiftLeft_eq, Nat.shiftLeft_eq]
    simp
    omega
  rw [UInt16.toNat_or, shifted, UInt8.toNat_toUInt16, or_shiftLeft (by omega)]
  simp

theorem three (a b c : UInt8) :
    (a.toUInt32 ||| (b.toUInt32 <<< 8) ||| (c.toUInt32 <<< 16)).toNat = value [a, b, c] := by
  have := a.toNat_lt
  have := b.toNat_lt
  have := c.toNat_lt
  have second : (b.toUInt32 <<< 8).toNat = b.toNat <<< 8 := by
    rw [UInt32.toNat_shiftLeft, Nat.shiftLeft_eq, Nat.shiftLeft_eq]
    simp
    omega
  have third : (c.toUInt32 <<< 16).toNat = c.toNat <<< 16 := by
    rw [UInt32.toNat_shiftLeft, Nat.shiftLeft_eq, Nat.shiftLeft_eq]
    simp
    omega
  have low : a.toNat ||| (b.toNat <<< 8) = a.toNat + 2 ^ 8 * b.toNat := or_shiftLeft (by omega) _
  rw [UInt32.toNat_or, UInt32.toNat_or, second, third, UInt8.toNat_toUInt32, low,
    or_shiftLeft (by omega)]
  simp
  ring

theorem four (a b c d : UInt8) :
    (a.toUInt32 ||| (b.toUInt32 <<< 8) ||| (c.toUInt32 <<< 16) ||| (d.toUInt32 <<< 24)).toNat =
      value [a, b, c, d] := by
  have := three a b c
  have := value_lt [a, b, c]
  have := d.toNat_lt
  have fourth : (d.toUInt32 <<< 24).toNat = d.toNat <<< 24 := by
    rw [UInt32.toNat_shiftLeft, Nat.shiftLeft_eq, Nat.shiftLeft_eq]
    simp
    omega
  rw [UInt32.toNat_or, fourth, three, or_shiftLeft (by simpa using value_lt [a, b, c])]
  simp
  ring

/-- A word of 64 bits, from its most significant byte on. -/
theorem foldl_eight (bytes : List UInt8) (fits : bytes.length ≤ 8) :
    (bytes.reverse.foldl (fun (word : UInt64) b => (word <<< 8) ||| b.toUInt64) 0).toNat =
      value bytes := by
  induction bytes with
  | nil => rfl
  | cons b bytes ih =>
      have short : bytes.length < 8 := fits
      have bound : value bytes < 256 ^ 7 :=
        (value_lt bytes).trans_le (Nat.pow_le_pow_right (by decide) (by omega))
      have := b.toNat_lt
      rw [List.reverse_cons, List.foldl_append, List.foldl_cons, List.foldl_nil]
      have shifted : ∀ word : UInt64, word.toNat < 256 ^ 7 →
          (word <<< 8).toNat = word.toNat <<< 8 := by
        intro word small
        rw [UInt64.toNat_shiftLeft, Nat.shiftLeft_eq, Nat.shiftLeft_eq]
        simp
        omega
      rw [UInt64.toNat_or, shifted _ (by rw [ih short.le]; exact bound), ih short.le,
        UInt8.toNat_toUInt64, Nat.or_comm, or_shiftLeft (by omega)]
      simp

end NimbleProxy.Theory.LittleEndian
