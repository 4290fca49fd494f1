/-
# Theory.TaggedOptions -- a region of options with tags and lengths

An option is a tag, a length and as many bytes. A tag of its own pads by one byte, and
another one ends the region. `met` has the options that a walk from the front meets; it ends
with the region, at the end tag, or at the first option that does not fit into what is left.
-/
import Mathlib.Data.List.Basic

namespace NimbleProxy.Theory.TaggedOptions

set_option autoImplicit false

/-- The options that are met, with their values. A tag without a length is none. -/
def met (pad stop : UInt8) : List UInt8 → List (UInt8 × List UInt8)
  | [] => []
  | [_] => []
  | tag :: length :: rest =>
      if tag = stop then []
      else if tag = pad then met pad stop (length :: rest)
      else if length.toNat ≤ rest.length then
        (tag, rest.take length.toNat) :: met pad stop (rest.drop length.toNat)
      else []
  termination_by bytes => bytes.length
  decreasing_by
    · exact Nat.lt_succ_self _
    · simp only [List.length_cons, List.length_drop]
      omega

variable {pad stop tag length : UInt8} {rest : List UInt8}

@[simp] theorem met_nil : met pad stop [] = [] := by
  rw [met]

@[simp] theorem met_singleton : met pad stop [tag] = [] := by
  rw [met]

/-- One round of the walk. -/
theorem met_cons_cons :
    met pad stop (tag :: length :: rest) =
      if tag = stop then []
      else if tag = pad then met pad stop (length :: rest)
      else if length.toNat ≤ rest.length then
        (tag, rest.take length.toNat) :: met pad stop (rest.drop length.toNat)
      else [] := by
  rw [met]

theorem met_stop (here : tag = stop) : met pad stop (tag :: rest) = [] := by
  cases rest with
  | nil => exact met_singleton
  | cons length rest => rw [met_cons_cons, if_pos here]

theorem met_pad (other : tag ≠ stop) (here : tag = pad) :
    met pad stop (tag :: rest) = met pad stop rest := by
  cases rest with
  | nil => rw [met_singleton, met_nil]
  | cons length rest => rw [met_cons_cons, if_neg other, if_pos here]

theorem met_short (other : tag ≠ stop) (some_ : tag ≠ pad) (short : rest.length < length.toNat) :
    met pad stop (tag :: length :: rest) = [] := by
  rw [met_cons_cons, if_neg other, if_neg some_, if_neg (Nat.not_le.mpr short)]

theorem met_option (other : tag ≠ stop) (some_ : tag ≠ pad) (fits : length.toNat ≤ rest.length) :
    met pad stop (tag :: length :: rest) =
      (tag, rest.take length.toNat) :: met pad stop (rest.drop length.toNat) := by
  rw [met_cons_cons, if_neg other, if_neg some_, if_pos fits]

end NimbleProxy.Theory.TaggedOptions
