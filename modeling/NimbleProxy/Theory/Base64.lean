/-
# Theory.Base64 -- three bytes in four characters

The encoding with the alphabet `A-Z a-z 0-9 + /` and `=` for what is missing in the last
group. A character stands for six bits (`digit`), and four of them are the 24 bits of
three bytes (`join_sextets`), so that whoever gets the values of the characters back has
the bytes (`bytes_triple`). All characters are printable and none is a separator
(`mem_encode`).
-/
import Mathlib.Tactic.Ring

namespace NimbleProxy.Theory.Base64

set_option autoImplicit false

/-- `=`. -/
def pad : UInt8 := 61

/-- The character of a value below 64. -/
def digit (v : Nat) : UInt8 :=
  if v < 26 then UInt8.ofNat (65 + v)
  else if v < 52 then UInt8.ofNat (97 + (v - 26))
  else if v < 62 then UInt8.ofNat (48 + (v - 52))
  else if v = 62 then 43
  else 47

/-- 24 bits. -/
def triple (a b c : UInt8) : Nat := 65536 * a.toNat + 256 * b.toNat + c.toNat

/-- The four values in 24 bits, from the top. -/
def sextet (n : Nat) : Nat → Nat
  | 0 => n / 262144
  | 1 => n / 4096 % 64
  | 2 => n / 64 % 64
  | _ => n % 64

def quad (n i : Nat) : UInt8 := digit (sextet n i)

def encode : List UInt8 → List UInt8
  | [] => []
  | [a] => [quad (triple a 0 0) 0, quad (triple a 0 0) 1, pad, pad]
  | [a, b] => [quad (triple a b 0) 0, quad (triple a b 0) 1, quad (triple a b 0) 2, pad]
  | a :: b :: c :: rest =>
      quad (triple a b c) 0 :: quad (triple a b c) 1 :: quad (triple a b c) 2 ::
        quad (triple a b c) 3 :: encode rest

theorem triple_lt (a b c : UInt8) : triple a b c < 2 ^ 24 := by
  have := a.toNat_lt
  have := b.toNat_lt
  have := c.toNat_lt
  unfold triple
  omega

theorem sextet_lt {n : Nat} (fits : n < 2 ^ 24) (i : Nat) : sextet n i < 64 := by
  match i with
  | 0 => simp only [sextet]; omega
  | 1 => simp only [sextet]; omega
  | 2 => simp only [sextet]; omega
  | _ + 3 => simp only [sextet]; omega

/-- The values put together again. -/
theorem join_sextets (n : Nat) :
    262144 * sextet n 0 + 4096 * sextet n 1 + 64 * sextet n 2 + sextet n 3 = n := by
  simp only [sextet]
  omega

/-- The same with shifts. -/
theorem or_sextets {n : Nat} (fits : n < 2 ^ 24) :
    sextet n 0 <<< 18 ||| sextet n 1 <<< 12 ||| sextet n 2 <<< 6 ||| sextet n 3 = n := by
  have lt1 := sextet_lt fits 1
  have lt2 := sextet_lt fits 2
  have lt3 := sextet_lt fits 3
  have shift6 := Nat.shiftLeft_eq (sextet n 2) 6
  have shift12 := Nat.shiftLeft_eq (sextet n 1) 12
  have shift18 := Nat.shiftLeft_eq (sextet n 0) 18
  rw [Nat.or_assoc, Nat.or_assoc,
    ← Nat.shiftLeft_add_eq_or_of_lt (show sextet n 3 < 2 ^ 6 by omega),
    ← Nat.shiftLeft_add_eq_or_of_lt (show sextet n 2 <<< 6 + sextet n 3 < 2 ^ 12 by omega),
    ← Nat.shiftLeft_add_eq_or_of_lt (by omega)]
  have join := join_sextets n
  omega

/-- The bytes of 24 bits. -/
theorem bytes_triple (a b c : UInt8) :
    UInt8.ofNat (triple a b c / 65536) = a ∧ UInt8.ofNat (triple a b c / 256) = b ∧
      UInt8.ofNat (triple a b c) = c := by
  have := a.toNat_lt
  have := b.toNat_lt
  have := c.toNat_lt
  refine ⟨?_, ?_, ?_⟩
  all_goals
    apply UInt8.toNat_inj.mp
    rw [UInt8.toNat_ofNat', triple]
    omega

theorem encode_ne_nil {bytes : List UInt8} (some_ : bytes ≠ []) : encode bytes ≠ [] := by
  match bytes with
  | [] => exact absurd rfl some_
  | [_] | [_, _] | _ :: _ :: _ :: _ => exact nofun

theorem length_encode (bytes : List UInt8) :
    (encode bytes).length = 4 * ((bytes.length + 2) / 3) := by
  induction bytes using encode.induct with
  | case1 | case2 | case3 => simp [encode]
  | case4 a b c rest ih =>
      simp only [encode, List.length_cons, ih]
      omega

/-- The characters. -/
def alphabet : List UInt8 := pad :: (List.range 64).map digit

theorem quad_mem {n : Nat} (fits : n < 2 ^ 24) (i : Nat) : quad n i ∈ alphabet :=
  List.mem_cons_of_mem _ (List.mem_map_of_mem (List.mem_range.mpr (sextet_lt fits i)))

theorem mem_encode {bytes : List UInt8} : ∀ c ∈ encode bytes, c ∈ alphabet := by
  have isPad : pad ∈ alphabet := List.mem_cons_self
  have digits (a b c : UInt8) (i : Nat) : quad (triple a b c) i ∈ alphabet :=
    quad_mem (triple_lt a b c) i
  induction bytes using encode.induct with
  | case1 => exact nofun
  | case2 a => simp [encode, isPad, digits]
  | case3 a b => simp [encode, isPad, digits]
  | case4 a b c rest ih =>
      simp only [encode, List.forall_mem_cons]
      exact ⟨digits a b c 0, digits a b c 1, digits a b c 2, digits a b c 3, ih⟩

end NimbleProxy.Theory.Base64
