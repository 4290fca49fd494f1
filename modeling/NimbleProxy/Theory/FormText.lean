/-
# Theory.FormText -- the value of a form field, escaped piece by piece

Each byte of a value stands for itself, is written with a percent sign and two digits, or is
a blank and written as a plus. A `Piece` says which; a list of them has the bytes of the
value and the text of the field, and the text can be of any of the ways there are to write
the value.

A text that is cut can end in the middle of an escape, and what is left of it is then taken
as it stands (`arrived`). So it says less than the value, but for one case: a percent sign
is written `%25`, and what is left of it can be what it stands for (`arrived_eq_iff`).
-/
import NimbleProxy.Theory.Json

namespace NimbleProxy.Theory.FormText

open NimbleProxy.Theory.Json (hexValue)

set_option autoImplicit false

/-- The byte of two digits. -/
def escapedByte (hi lo : UInt8) : UInt8 :=
  UInt8.ofNat ((hexValue hi).getD 0 * 16 + (hexValue lo).getD 0)

inductive Piece
  | plain (c : UInt8) (free : c ≠ 0 ∧ c ≠ 37 ∧ c ≠ 38 ∧ c ≠ 43)
  | escaped (hi lo : UInt8) (digits : (hexValue hi).isSome ∧ (hexValue lo).isSome)
      (some_ : escapedByte hi lo ≠ 0)
  | plus

namespace Piece

def byte : Piece → UInt8
  | plain c _ => c
  | escaped hi lo _ _ => escapedByte hi lo
  | plus => 32

def text : Piece → List UInt8
  | plain c _ => [c]
  | escaped hi lo _ _ => [37, hi, lo]
  | plus => [43]

/-- A digit is none of the bytes that have a meaning in a form. -/
theorem digit_ne {c : UInt8} (digit : (hexValue c).isSome) : c ≠ 0 ∧ c ≠ 37 ∧ c ≠ 38 ∧ c ≠ 43 := by
  refine ⟨?_, ?_, ?_, ?_⟩
  all_goals
    rintro rfl
    exact absurd digit (by decide)

theorem byte_ne_zero : (p : Piece) → p.byte ≠ 0
  | plain _ free => free.1
  | escaped _ _ _ some_ => some_
  | plus => by decide

/-- No piece has a separator or a NUL. -/
theorem text_free (p : Piece) : 0 ∉ p.text ∧ 38 ∉ p.text := by
  cases p with
  | plain c free => simp [text, free.1.symm, free.2.2.1.symm]
  | escaped hi lo digits some_ =>
      obtain ⟨hi', lo'⟩ := And.intro (digit_ne digits.1) (digit_ne digits.2)
      simp [text, hi'.1.symm, hi'.2.2.1.symm, lo'.1.symm, lo'.2.2.1.symm]
  | plus => decide

theorem length_text (p : Piece) : 0 < p.text.length ∧ p.text.length ≤ 3 := by
  cases p <;> simp [text]

end Piece

/-- The value. -/
def bytesOf (pieces : List Piece) : List UInt8 := pieces.map Piece.byte

/-- The text of the field. -/
def textOf (pieces : List Piece) : List UInt8 := pieces.flatMap Piece.text

/-- What the first `room` bytes of the text say: the bytes of the pieces that are whole, and what is
there of the next one as it stands. -/
def arrived : Nat → List Piece → List UInt8
  | _, [] => []
  | room, p :: rest =>
      if p.text.length ≤ room then p.byte :: arrived (room - p.text.length) rest
      else p.text.take room

/-- What of a percent sign that was cut is all of the value there is: `%`, or `%2` in front of a
digit 2. -/
def CutInPercent (room : Nat) (pieces : List Piece) : Prop :=
  ∃ front p rest, pieces = front ++ p :: rest ∧ p.byte = 37 ∧
    (room = (textOf front).length + 1 ∧ rest = [] ∨
      room = (textOf front).length + 2 ∧ ∃ q, rest = [q] ∧ q.byte = 50)

variable {pieces : List Piece} {room : Nat}

theorem length_bytesOf (pieces : List Piece) : (bytesOf pieces).length = pieces.length :=
  List.length_map _

theorem textOf_cons (p : Piece) (rest : List Piece) : textOf (p :: rest) = p.text ++ textOf rest :=
  rfl

theorem textOf_free (pieces : List Piece) : 0 ∉ textOf pieces ∧ 38 ∉ textOf pieces := by
  induction pieces with
  | nil => decide
  | cons p rest ih => simp [textOf_cons, p.text_free, ih]

/-- At most three bytes for each. -/
theorem length_textOf_le (pieces : List Piece) : (textOf pieces).length ≤ 3 * pieces.length := by
  induction pieces with
  | nil => rfl
  | cons p rest ih =>
      have bound := p.length_text.2
      rw [textOf_cons, List.length_append, List.length_cons]
      omega

theorem arrived_whole (whole : (textOf pieces).length ≤ room) :
    arrived room pieces = bytesOf pieces := by
  induction pieces generalizing room with
  | nil => rfl
  | cons p rest ih =>
      rw [textOf_cons, List.length_append] at whole
      rw [arrived, if_pos (by omega), ih (by omega)]
      rfl

theorem zero_notMem_arrived (room : Nat) (pieces : List Piece) : 0 ∉ arrived room pieces := by
  induction pieces generalizing room with
  | nil => exact List.not_mem_nil
  | cons p rest ih =>
      rw [arrived]
      split
      · rw [List.mem_cons, not_or]
        exact ⟨p.byte_ne_zero.symm, ih _⟩
      · exact fun mem => p.text_free.1 (List.mem_of_mem_take mem)

/-- What has arrived is a third of it at least. -/
theorem length_arrived_ge (cut : room ≤ (textOf pieces).length) :
    room ≤ 3 * (arrived room pieces).length := by
  induction pieces generalizing room with
  | nil => exact Nat.le_trans cut (Nat.zero_le _)
  | cons p rest ih =>
      rw [textOf_cons, List.length_append] at cut
      have bounds := p.length_text
      rw [arrived]
      split
      · have more : room - p.text.length ≤ 3 * (arrived (room - p.text.length) rest).length :=
          ih (by omega)
        rw [List.length_cons]
        omega
      · rw [List.length_take]
        omega

/-! ## A cut that does no harm -/

theorem hexValue_cases {c : UInt8} {v : Nat} (value : hexValue c = some v) :
    c.toNat = v + 48 ∧ v < 10 ∨ c.toNat = v + 87 ∧ 10 ≤ v ∧ v < 16 ∨
      c.toNat = v + 55 ∧ 10 ≤ v ∧ v < 16 := by
  simp only [hexValue, UInt8.le_iff_toNat_le, UInt8.reduceToNat] at value
  split at value
  · rw [Option.some.injEq] at value
    omega
  split at value
  · rw [Option.some.injEq] at value
    omega
  split at value
  · rw [Option.some.injEq] at value
    omega
  · cases value

/-- A percent sign is written `%25`. -/
theorem hi_of_percent {hi lo : UInt8} (digits : (hexValue hi).isSome ∧ (hexValue lo).isSome)
    (percent : escapedByte hi lo = 37) : hi = 50 := by
  obtain ⟨v, high⟩ := Option.isSome_iff_exists.mp digits.1
  obtain ⟨w, low⟩ := Option.isSome_iff_exists.mp digits.2
  have bound := hexValue_cases low
  have digit := hexValue_cases high
  have sum : (v * 16 + w) % 256 = 37 := by
    rw [escapedByte, high, low] at percent
    exact congrArg UInt8.toNat percent
  apply UInt8.toNat_inj.mp
  show hi.toNat = 50
  omega

theorem bytesOf_eq_singleton_iff {c : UInt8} {rest : List Piece} :
    bytesOf rest = [c] ↔ ∃ q, rest = [q] ∧ q.byte = c :=
  List.map_eq_singleton_iff

/-- What is left of a piece is never its byte, but for a percent sign. -/
theorem Piece.take_text_eq_iff (p : Piece) (cut : room < p.text.length) (rest : List Piece) :
    p.text.take room = p.byte :: bytesOf rest ↔ p.byte = 37 ∧
      (room = 1 ∧ rest = [] ∨ room = 2 ∧ ∃ q, rest = [q] ∧ q.byte = 50) := by
  by_cases zero : room = 0
  · subst zero
    simp
  · cases p with
    | plain c free => exact absurd (Nat.lt_one_iff.mp cut) zero
    | plus => exact absurd (Nat.lt_one_iff.mp cut) zero
    | escaped hi lo digits some_ =>
        have three : room = 1 ∨ room = 2 := by
          have bound : room < 3 := cut
          omega
        rcases three with rfl | rfl
        · show [37] = escapedByte hi lo :: bytesOf rest ↔ escapedByte hi lo = 37 ∧ _
          simp [bytesOf, eq_comm]
        · show [37, hi] = escapedByte hi lo :: bytesOf rest ↔ escapedByte hi lo = 37 ∧ _
          constructor
          · intro same
            obtain ⟨percent, more⟩ := List.cons_eq_cons.mp same
            rw [hi_of_percent digits percent.symm] at more
            exact ⟨percent.symm, .inr ⟨rfl, bytesOf_eq_singleton_iff.mp more.symm⟩⟩
          · rintro ⟨percent, ⟨one, _⟩ | ⟨_, two⟩⟩
            · cases one
            · rw [percent, hi_of_percent digits percent, bytesOf_eq_singleton_iff.mpr two]

theorem cutInPercent_cons_iff {p : Piece} {rest : List Piece} (whole : p.text.length ≤ room) :
    CutInPercent room (p :: rest) ↔ CutInPercent (room - p.text.length) rest := by
  constructor
  · rintro ⟨front, q, back, same, percent, place⟩
    cases front with
    | nil =>
        obtain ⟨rfl, rfl⟩ := List.cons_eq_cons.mp same
        have three : p.text.length = 3 := by
          cases p with
          | plain c free => exact absurd percent free.2.1
          | plus => exact absurd percent (by decide)
          | escaped hi lo digits some_ => rfl
        have none_ : (textOf []).length = 0 := rfl
        omega
    | cons first front =>
        obtain ⟨rfl, rfl⟩ := List.cons_eq_cons.mp same
        rw [textOf_cons, List.length_append] at place
        exact ⟨front, q, back, rfl, percent,
          place.imp (.imp_left (by omega)) (.imp_left (by omega))⟩
  · rintro ⟨front, q, back, rfl, percent, place⟩
    refine ⟨p :: front, q, back, rfl, percent, ?_⟩
    rw [textOf_cons, List.length_append]
    exact place.imp (.imp_left (by omega)) (.imp_left (by omega))

/-- **A text that is cut and says all of the value.** -/
theorem arrived_eq_iff (room : Nat) (pieces : List Piece) :
    arrived room pieces = bytesOf pieces ↔
      (textOf pieces).length ≤ room ∨ CutInPercent room pieces := by
  induction pieces generalizing room with
  | nil => exact ⟨fun _ => .inl (Nat.zero_le _), fun _ => rfl⟩
  | cons p rest ih =>
      rw [arrived, textOf_cons, List.length_append]
      split
      · rename_i whole
        have tail : (textOf rest).length ≤ room - p.text.length ↔
            p.text.length + (textOf rest).length ≤ room := by omega
        rw [cutInPercent_cons_iff whole, ← tail, ← ih]
        exact List.cons_inj_right _
      · rename_i cut
        have short : ¬ p.text.length + (textOf rest).length ≤ room := by omega
        refine (p.take_text_eq_iff (by omega) rest).trans ?_
        constructor
        · rintro ⟨percent, place⟩
          refine .inr ⟨[], p, rest, rfl, percent, ?_⟩
          have none_ : (textOf []).length = 0 := rfl
          rwa [none_, Nat.zero_add, Nat.zero_add]
        · rintro (whole | ⟨front, q, back, same, percent, place⟩)
          · exact absurd whole short
          · cases front with
            | nil =>
                obtain ⟨rfl, rfl⟩ := List.cons_eq_cons.mp same
                exact ⟨percent, place⟩
            | cons first front =>
                obtain ⟨rfl, rfl⟩ := List.cons_eq_cons.mp same
                rw [textOf_cons, List.length_append] at place
                omega

end NimbleProxy.Theory.FormText
