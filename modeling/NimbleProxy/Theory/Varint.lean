/-
# Theory.Varint -- base-128 numbers in a byte string

A varint writes a number in groups of seven bits, least significant first; the
top bit of a byte says that another one follows. `encode` is the shortest such
string for a number, `value` reads any string of groups, shortest or not.

`scan max bytes` says how a flat byte string starts when it is read as a varint
of at most `max` bytes: with a number, with too many continuation bytes, or it
ends inside the number. It looks at the string as a whole; `scan_cons` is the
byte-at-a-time view that a streaming reader has.
-/
import Mathlib.Data.List.Basic
import Mathlib.Tactic.Ring

namespace NimbleProxy.Theory.Varint

set_option autoImplicit false

/-- The top bit is set: another byte follows. -/
def continues (b : UInt8) : Bool := decide (128 ≤ b.toNat)

/-- The number a string of seven-bit groups stands for. -/
def value (digits : List UInt8) : Nat :=
  digits.foldr (fun b rest => b.toNat % 128 + 128 * rest) 0

/-- The shortest varint of `n`. -/
def encode (n : Nat) : List UInt8 :=
  if n < 128 then [UInt8.ofNat n] else UInt8.ofNat (n % 128 + 128) :: encode (n / 128)
termination_by n
decreasing_by omega

/-- The number of groups `n` needs. -/
def size (n : Nat) : Nat :=
  if n < 128 then 1 else size (n / 128) + 1
termination_by n
decreasing_by omega

/-- How a byte string starts. -/
inductive Scan
  | done (value : Nat) (rest : List UInt8)
  | tooLong (rest : List UInt8)
  | short
  deriving DecidableEq

/-- Reads `bytes` as a varint of at most `max` bytes. -/
def scan (max : Nat) (bytes : List UInt8) : Scan :=
  let body := bytes.takeWhile continues
  if max ≤ body.length then .tooLong (bytes.drop max)
  else
    match bytes.drop body.length with
    | [] => .short
    | last :: rest => .done (value (body ++ [last])) rest

/-- One more group in front of what the rest gave. -/
def Scan.after (b : UInt8) : Scan → Scan
  | .done v rest => .done (b.toNat % 128 + 128 * v) rest
  | .tooLong rest => .tooLong rest
  | .short => .short

/-! ## Byte by byte -/

@[simp] theorem value_cons (b : UInt8) (digits : List UInt8) :
    value (b :: digits) = b.toNat % 128 + 128 * value digits := rfl

@[simp] theorem scan_zero (bytes : List UInt8) : scan 0 bytes = .tooLong bytes := rfl

@[simp] theorem scan_nil (max : Nat) : scan (max + 1) [] = .short := rfl

/-- A streaming reader sees one byte: it is the last group, or one more is needed. -/
theorem scan_cons (max : Nat) (b : UInt8) (rest : List UInt8) :
    scan (max + 1) (b :: rest) =
      if continues b then (scan max rest).after b else .done b.toNat rest := by
  by_cases more : continues b = true
  · simp only [scan, List.takeWhile_cons, more, if_true, List.length_cons, Nat.add_le_add_iff_right,
      List.drop_succ_cons]
    split
    · rfl
    · cases rest.drop (rest.takeWhile continues).length with
      | nil => rfl
      | cons last rest => rfl
  · have small : b.toNat < 128 := by
      simpa [continues] using more
    simp [scan, more, value, Nat.mod_eq_of_lt small]

/-! ## Encoding and scanning -/

theorem toNat_group (n : Nat) : (UInt8.ofNat (n % 128 + 128)).toNat = n % 128 + 128 := by
  rw [UInt8.toNat_ofNat']
  omega

theorem toNat_last {n : Nat} (small : n < 128) : (UInt8.ofNat n).toNat = n := by
  rw [UInt8.toNat_ofNat']
  omega

theorem encode_ne_nil (n : Nat) : encode n ≠ [] := by
  rw [encode]
  split <;> simp

theorem length_encode (n : Nat) : (encode n).length = size n := by
  induction n using Nat.strong_induction_on with
  | _ n ih =>
      rw [encode, size]
      by_cases small : n < 128
      · simp [small]
      · simp only [small, if_false, List.length_cons]
        rw [ih (n / 128) (by omega)]

theorem size_pos (n : Nat) : 0 < size n := by
  rw [size]
  split <;> omega

/-- A number below `128 ^ k` needs at most `k` groups, and the bound is exact. -/
theorem size_le_iff (n k : Nat) : size n ≤ k + 1 ↔ n < 128 ^ (k + 1) := by
  induction k generalizing n with
  | zero =>
      rw [size]
      have pos := size_pos (n / 128)
      split <;> omega
  | succ k ih =>
      rw [size]
      by_cases small : n < 128
      · have big : 128 ≤ 128 ^ (k + 1 + 1) := Nat.le_self_pow (by omega) 128
        simp only [small, if_true]
        omega
      · simp only [small, if_false, Nat.add_le_add_iff_right]
        rw [ih, Nat.div_lt_iff_lt_mul (by decide), ← Nat.pow_succ]

/-- Scanning what was encoded gives the number back and leaves what follows, if
the budget allows for its groups. -/
theorem scan_encode (n max : Nat) (rest : List UInt8) (room : size n ≤ max) :
    scan max (encode n ++ rest) = .done n rest := by
  induction n using Nat.strong_induction_on generalizing max with
  | _ n ih =>
      cases max with
      | zero =>
          have pos := size_pos n
          omega
      | succ max =>
          rw [encode]
          rw [size] at room
          by_cases small : n < 128
          · simp [small, scan_cons, continues, toNat_last small]
          · simp only [small, if_false] at room
            simp only [small, if_false, List.cons_append, scan_cons, continues, toNat_group]
            rw [ih (n / 128) (by omega) max (by omega)]
            simp only [Nat.le_add_left, decide_true, if_true, Scan.after, toNat_group,
              Scan.done.injEq, and_true]
            omega

/-- Without the budget it is refused, after exactly `max` bytes. -/
theorem scan_encode_tooLong (n max : Nat) (rest : List UInt8) (over_ : max < size n) :
    scan max (encode n ++ rest) = .tooLong ((encode n ++ rest).drop max) := by
  induction n using Nat.strong_induction_on generalizing max with
  | _ n ih =>
      cases max with
      | zero => rfl
      | succ max =>
          rw [size] at over_
          rw [encode]
          by_cases small : n < 128
          · simp only [small, if_true] at over_
            omega
          · simp only [small, if_false] at over_
            simp only [small, if_false, List.cons_append, scan_cons, continues, toNat_group]
            rw [ih (n / 128) (by omega) max (by omega)]
            simp [Scan.after]

/-! ## What a complete varint looks like -/

/-- `bytes` is a varint of at most `max` bytes for `v`; it need not be the shortest. -/
structure IsVarint (max : Nat) (bytes : List UInt8) (v : Nat) : Prop where
  length : bytes.length ≤ max
  shape : ∃ body last, bytes = body ++ [last] ∧ (∀ b ∈ body, continues b = true) ∧
    continues last = false
  value : v = value bytes

theorem isVarint_cons {max v : Nat} {b : UInt8} {bytes : List UInt8} (more : continues b = true) :
    IsVarint (max + 1) (b :: bytes) v ↔
      ∃ w, IsVarint max bytes w ∧ v = b.toNat % 128 + 128 * w := by
  constructor
  · rintro ⟨length, ⟨body, last, shape, all, stop⟩, value⟩
    cases body with
    | nil =>
        simp only [List.nil_append, List.cons.injEq] at shape
        rw [shape.1, stop] at more
        cases more
    | cons first body =>
        simp only [List.cons_append, List.cons.injEq] at shape
        refine ⟨Varint.value bytes, ⟨?_, ⟨body, last, shape.2, ?_, stop⟩, rfl⟩, value⟩
        · simpa using length
        · exact fun b inside => all b (List.mem_cons_of_mem _ inside)
  · rintro ⟨w, ⟨length, ⟨body, last, rfl, all, stop⟩, rfl⟩, rfl⟩
    refine ⟨by simpa using length, ⟨b :: body, last, rfl, ?_, stop⟩, rfl⟩
    intro c inside
    rcases List.mem_cons.mp inside with rfl | inside
    · exact more
    · exact all c inside

/-- A scan succeeds exactly on the strings that start with a varint. -/
theorem scan_done_iff {max v : Nat} {bytes rest : List UInt8} :
    scan max bytes = .done v rest ↔ ∃ digits, bytes = digits ++ rest ∧ IsVarint max digits v := by
  induction max generalizing bytes v with
  | zero =>
      simp only [scan_zero, reduceCtorEq, false_iff]
      rintro ⟨digits, -, length, ⟨body, last, rfl, -⟩, -⟩
      simp at length
  | succ max ih =>
      cases bytes with
      | nil =>
          simp only [scan_nil, reduceCtorEq, false_iff]
          rintro ⟨digits, split, -, ⟨body, last, rfl, -⟩, -⟩
          simp at split
      | cons b bytes =>
          rw [scan_cons]
          by_cases more : continues b = true
          · simp only [more, if_true]
            constructor
            · intro done
              cases scanned : scan max bytes with
              | done w after =>
                  rw [scanned] at done
                  cases done
                  obtain ⟨digits, rfl, isVarint⟩ := ih.mp scanned
                  exact ⟨b :: digits, rfl, (isVarint_cons more).mpr ⟨w, isVarint, rfl⟩⟩
              | tooLong after =>
                  rw [scanned] at done
                  cases done
              | short =>
                  rw [scanned] at done
                  cases done
            · rintro ⟨digits, split, isVarint⟩
              cases digits with
              | nil =>
                  obtain ⟨body, last, shape, -⟩ := isVarint.shape
                  simp at shape
              | cons first digits =>
                  simp only [List.cons_append, List.cons.injEq] at split
                  obtain ⟨rfl, rfl⟩ := split
                  obtain ⟨w, inner, rfl⟩ := (isVarint_cons more).mp isVarint
                  rw [ih.mpr ⟨digits, rfl, inner⟩]
                  rfl
          · have small : b.toNat < 128 := by
              simpa [continues] using more
            simp only [more, Bool.false_eq_true, if_false, Scan.done.injEq]
            constructor
            · rintro ⟨rfl, rfl⟩
              refine ⟨[b], rfl, by simp, ⟨[], b, rfl, by simp, by simpa using more⟩, ?_⟩
              simp [value, Nat.mod_eq_of_lt small]
            · rintro ⟨digits, split, isVarint⟩
              obtain ⟨body, last, rfl, all, -⟩ := isVarint.shape
              cases body with
              | nil =>
                  simp only [List.nil_append, List.cons_append, List.cons.injEq] at split
                  obtain ⟨rfl, rfl⟩ := split
                  refine ⟨?_, rfl⟩
                  rw [isVarint.value]
                  simp [value, Nat.mod_eq_of_lt small]
              | cons first body =>
                  simp only [List.cons_append, List.cons.injEq] at split
                  rw [split.1] at more
                  exact absurd (all first (List.mem_cons_self ..)) more

theorem isVarint_encode {n max : Nat} (room : size n ≤ max) : IsVarint max (encode n) n := by
  obtain ⟨digits, split, isVarint⟩ := scan_done_iff.mp (scan_encode n max [] room)
  rw [List.append_nil, List.append_nil] at split
  rw [split]
  exact isVarint

theorem value_lt (digits : List UInt8) : value digits < 128 ^ digits.length := by
  induction digits with
  | nil => decide
  | cons b digits ih =>
      have group : b.toNat % 128 < 128 := Nat.mod_lt _ (by decide)
      rw [value_cons, List.length_cons, Nat.pow_succ]
      omega

theorem scan_lt {max v : Nat} {bytes rest : List UInt8} (done : scan max bytes = .done v rest) :
    v < 128 ^ max := by
  obtain ⟨digits, -, isVarint⟩ := scan_done_iff.mp done
  rw [isVarint.value]
  exact Nat.lt_of_lt_of_le (value_lt digits) (Nat.pow_le_pow_right (by decide) isVarint.length)

end NimbleProxy.Theory.Varint
