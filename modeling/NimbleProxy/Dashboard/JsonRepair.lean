/-
# Dashboard.JsonRepair -- what bleJson makes of a response that was cut

`index.html`, `bleJson`: NULs at the end are dropped, and a text that does not end with a
closing bracket is taken up to the last one and closed with `]}`. A text that has none, or
that ends with one, is left as it is.

The text is the bytes of the response. `TextDecoder` keeps every byte below 128 as the
character that it is, so the brackets are found at the same places, and what it makes of
the other bytes stands inside of strings.
-/
import Mathlib.Data.List.DropRight
import NimbleProxy.Theory.Brackets

namespace NimbleProxy.Dashboard.JsonRepair

open NimbleProxy.Theory.Json (isClosing)

set_option autoImplicit false

/-- `txt.lastIndexOf(c)`. -/
def lastIndexOf (c : UInt8) (txt : List UInt8) : Int := txt.length - 1 - txt.reverse.idxOf c

/-- `bleJson`, up to `JSON.parse`. -/
def repaired (txt : List UInt8) : List UInt8 :=
  let txt := txt.rdropWhile (· = 0)
  if txt.getLast? = some 44 ∨ txt.getLast? ≠ some 125 ∧ txt.getLast? ≠ some 93 then
    let lastClose := max (lastIndexOf 125 txt) (lastIndexOf 93 txt)
    if lastClose > 0 then txt.take (lastClose.toNat + 1) ++ [93, 125] else txt
  else txt

variable {c : UInt8} {txt front back : List UInt8}

theorem lastIndexOf_append (free : c ∉ back) :
    lastIndexOf c (front ++ c :: back) = front.length := by
  have same : (front ++ c :: back).reverse.idxOf c = back.length := by
    rw [List.reverse_append, List.reverse_cons, List.append_assoc,
      List.idxOf_append_of_notMem (by simpa using free), List.length_reverse]
    simp
  rw [lastIndexOf, same, List.length_append, List.length_cons]
  omega

/-- Nothing is found behind the last place where it can be. -/
theorem lastIndexOf_lt (free : c ∉ back) : lastIndexOf c (front ++ back) < front.length := by
  have late : back.length ≤ (front ++ back).reverse.idxOf c := by
    rw [List.reverse_append, List.idxOf_append_of_notMem (by simpa using free),
      List.length_reverse]
    exact Nat.le_add_right _ _
  rw [lastIndexOf, List.length_append]
  omega

theorem rdropWhile_zero (last : txt.getLast? = some c) (some_ : c ≠ 0) :
    txt.rdropWhile (· = 0) = txt := by
  refine List.rdropWhile_eq_self_iff.mpr fun nonempty => ?_
  rw [List.getLast?_eq_some_getLast nonempty, Option.some.injEq] at last
  rw [last]
  simpa using some_

/-- A text that ends with a brace is taken as it is. -/
theorem repaired_of_brace (last : txt.getLast? = some 125) : repaired txt = txt := by
  rw [repaired, rdropWhile_zero last (by decide)]
  simp [last]

/-- A text that ends with a quote, and has no closing bracket. -/
theorem repaired_of_no_closing (last : txt.getLast? = some 34)
    (free : ∀ c ∈ txt, isClosing c = false) : repaired txt = txt := by
  have brace : (125 : UInt8) ∉ txt := fun mem => absurd (free 125 mem) (by decide)
  have bracket : (93 : UInt8) ∉ txt := fun mem => absurd (free 93 mem) (by decide)
  have first : lastIndexOf 125 ([] ++ txt) < 0 := lastIndexOf_lt brace
  have second : lastIndexOf 93 ([] ++ txt) < 0 := lastIndexOf_lt bracket
  rw [List.nil_append] at first second
  rw [repaired, rdropWhile_zero last (by decide)]
  simp only [last]
  rw [if_pos (by decide), if_neg (by omega)]

/-- **The repair**: a text that ends with a quote is cut behind its last brace. -/
theorem repaired_of_quote (some_ : front ≠ []) (last : back.getLast? = some 34)
    (free : ∀ c ∈ back, isClosing c = false) :
    repaired (front ++ 125 :: back) = front ++ [125, 93, 125] := by
  have brace : (125 : UInt8) ∉ back := fun mem => absurd (free 125 mem) (by decide)
  have bracket : (93 : UInt8) ∉ 125 :: back := by
    rw [List.mem_cons, not_or]
    exact ⟨by decide, fun mem => absurd (free 93 mem) (by decide)⟩
  have long : 0 < front.length := List.length_pos_iff.mpr some_
  have end_ : (front ++ 125 :: back).getLast? = some 34 := by
    simp [List.getLast?_cons, last]
  have at_ : lastIndexOf 125 (front ++ 125 :: back) = front.length := lastIndexOf_append brace
  have before : lastIndexOf 93 (front ++ 125 :: back) < front.length := lastIndexOf_lt bracket
  have place : max (lastIndexOf 125 (front ++ 125 :: back)) (lastIndexOf 93 (front ++ 125 :: back)) =
      front.length := by
    omega
  rw [repaired, rdropWhile_zero end_ (by decide)]
  simp only [end_, place]
  rw [if_pos (by decide), if_pos (by omega), Int.toNat_natCast, List.take_append]
  simp

end NimbleProxy.Dashboard.JsonRepair
