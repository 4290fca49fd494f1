/-
# Theory.CutLines -- a piece of a stream of lines

A stream is made of lines with a separator behind each (`lined`). Who starts to listen
somewhere and stops somewhere gets an infix of it: the end of a line, some lines, and the
beginning of one. So it is a prefix of a stream of lines again, each of them an end of a line
of the first (`prefix_of_infix`).

Of an end of a line it is known how its first word can look (`word_of_suffix`), and where in
a longer text a word can stand (`infix_separated`, `infix_apart`).
-/
import Mathlib.Data.List.Infix

namespace NimbleProxy.Theory.CutLines

set_option autoImplicit false

universe u

variable {α : Type u}

/-! ## Ends and beginnings of what is joined -/

theorem suffix_append_cases {s a b : List α} (ends : s <:+ a ++ b) :
    s <:+ b ∨ ∃ t, t <:+ a ∧ s = t ++ b := by
  induction a with
  | nil => exact .inl ends
  | cons x a ih =>
      rcases List.suffix_cons_iff.mp ends with rfl | shorter
      · exact .inr ⟨x :: a, List.suffix_rfl, rfl⟩
      · rcases ih shorter with inLast | ⟨t, isEnd, rfl⟩
        · exact .inl inLast
        · exact .inr ⟨t, isEnd.trans (List.suffix_cons x a), rfl⟩

theorem prefix_append_cases {p a b : List α} (begins : p <+: a ++ b) :
    p <+: a ∨ ∃ q, q <+: b ∧ p = a ++ q := by
  rcases List.prefix_or_prefix_of_prefix begins (List.prefix_append a b) with inFirst | ⟨q, rfl⟩
  · exact .inl inFirst
  · exact .inr ⟨q, (List.prefix_append_right_inj a).mp begins, rfl⟩

/-! ## Lines -/

/-- The lines, each with the separator behind it. -/
def lined (sep : α) (lines : List (List α)) : List α := (lines.map (· ++ [sep])).flatten

section

variable {sep : α} {line piece : List α} {lines : List (List α)}

@[simp] theorem lined_nil (sep : α) : lined sep [] = [] := rfl

@[simp] theorem lined_cons (sep : α) (line : List α) (lines : List (List α)) :
    lined sep (line :: lines) = line ++ [sep] ++ lined sep lines := rfl

/-- Every line is an end of one of these. -/
def EndsOf (lines cut : List (List α)) : Prop := ∀ s ∈ cut, ∃ line ∈ lines, s <:+ line

/-- What is left of a stream behind some point is a stream. -/
theorem suffix_lined (ends : piece <:+ lined sep lines) :
    ∃ cut, EndsOf lines cut ∧ piece = lined sep cut := by
  induction lines with
  | nil =>
      rw [lined_nil, List.suffix_nil] at ends
      exact ⟨[], fun _ none_ => (List.not_mem_nil none_).elim, ends⟩
  | cons line lines ih =>
      have own : ∀ {s cut}, s <:+ line → EndsOf lines cut → EndsOf (line :: lines) (s :: cut) := by
        rintro s cut isEnd later s' inside
        rcases List.mem_cons.mp inside with rfl | behind
        · exact ⟨line, List.mem_cons_self, isEnd⟩
        · obtain ⟨whole, among, isEnd'⟩ := later s' behind
          exact ⟨whole, List.mem_cons_of_mem _ among, isEnd'⟩
      have whole : EndsOf lines lines := fun s inside => ⟨s, inside, List.suffix_rfl⟩
      rw [lined_cons, List.append_assoc] at ends
      rcases suffix_append_cases ends with behind | ⟨t, isEnd, rfl⟩
      · rcases List.suffix_cons_iff.mp behind with rfl | later
        · exact ⟨[] :: lines, own List.nil_suffix whole, rfl⟩
        · obtain ⟨cut, endsOf, rfl⟩ := ih later
          refine ⟨cut, fun s inside => ?_, rfl⟩
          obtain ⟨line', among, isEnd⟩ := endsOf s inside
          exact ⟨line', List.mem_cons_of_mem _ among, isEnd⟩
      · exact ⟨t :: lines, own isEnd whole, by rw [lined_cons, List.append_assoc]⟩

/-- **What is heard of a stream.** -/
theorem prefix_of_infix (heard : piece <:+: lined sep lines) :
    ∃ cut, EndsOf lines cut ∧ piece <+: lined sep cut := by
  obtain ⟨rest, begins, ends⟩ := List.infix_iff_prefix_suffix.mp heard
  obtain ⟨cut, endsOf, rfl⟩ := suffix_lined ends
  exact ⟨cut, endsOf, begins⟩

end

/-! ## Words -/

section

variable {blank : α} {word first rest s : List α}

/-- The first word of a text is what is before the first blank. -/
theorem first_word (free : blank ∉ word) (free' : blank ∉ first)
    (begins : word ++ [blank] <+: first ++ blank :: rest) : word = first := by
  induction word generalizing first with
  | nil =>
      cases first with
      | nil => rfl
      | cons x first =>
          obtain ⟨same, -⟩ := List.cons_prefix_cons.mp begins
          exact absurd (same ▸ List.mem_cons_self) free'
  | cons x word ih =>
      cases first with
      | nil =>
          obtain ⟨same, -⟩ := List.cons_prefix_cons.mp begins
          exact absurd (same ▸ List.mem_cons_self) free
      | cons y first =>
          obtain ⟨rfl, more⟩ := List.cons_prefix_cons.mp begins
          rw [ih (fun inside => free (List.mem_cons_of_mem _ inside))
            (fun inside => free' (List.mem_cons_of_mem _ inside)) more]

/-- A word at the beginning of an end of a text is an end of the first word of the text, or is
further behind. -/
theorem word_of_suffix (free : blank ∉ word) (free' : blank ∉ first)
    (ends : s <:+ first ++ blank :: rest) (begins : word ++ [blank] <+: s) :
    (word <:+ first ∧ s = word ++ blank :: rest) ∨ s <:+ rest := by
  rcases suffix_append_cases ends with behind | ⟨t, isEnd, rfl⟩
  · rcases List.suffix_cons_iff.mp behind with rfl | later
    · have empty : word = [] := first_word free List.not_mem_nil begins
      subst empty
      exact .inl ⟨List.nil_suffix, rfl⟩
    · exact .inr later
  · have same : word = t := first_word free (fun inside => free' (isEnd.subset inside)) begins
    subst same
    exact .inl ⟨isEnd, rfl⟩

end

/-! ## A word in a longer text -/

section

variable {sep : α} {word x y : List α}

/-- A word does not reach across a separator. -/
theorem infix_separated (free : sep ∉ word) :
    word <:+: x ++ sep :: y ↔ word <:+: x ∨ word <:+: y := by
  have before : ∀ {rest}, rest <+: sep :: y → (∀ c ∈ rest, c ∈ word) → rest = [] := by
    intro rest begins own
    cases rest with
    | nil => rfl
    | cons c rest =>
        obtain ⟨rfl, -⟩ := List.cons_prefix_cons.mp begins
        exact absurd (own c List.mem_cons_self) free
  refine ⟨fun found => ?_, fun found => ?_⟩
  · rcases List.infix_append_iff.mp found with first | last | ⟨front, rest, rfl, ends, begins⟩
    · exact .inl first
    · rcases List.infix_cons_iff.mp last with begins | last
      · rw [before begins fun _ inside => inside]
        exact .inl List.nil_infix
      · exact .inr last
    · rw [before begins fun _ inside => List.mem_append_right _ inside, List.append_nil]
      exact .inl ends.isInfix
  · rcases found with first | last
    · exact List.infix_append_of_infix_left first
    · exact List.infix_append_of_infix_right (List.infix_cons last)

/-- Nor into a text that begins like none of its ends. -/
theorem infix_apart (apart : ∀ rest ∈ word.tails, rest ≠ [] → rest ≠ word → ¬ rest <+: y) :
    word <:+: x ++ y ↔ word <:+: x ∨ word <:+: y := by
  refine ⟨fun found => ?_, fun found => ?_⟩
  · rcases List.infix_append_iff.mp found with first | last | ⟨front, rest, rfl, ends, begins⟩
    · exact .inl first
    · exact .inr last
    · by_cases empty : rest = []
      · rw [empty, List.append_nil]
        exact .inl ends.isInfix
      · by_cases whole : rest = front ++ rest
        · rw [← whole]
          exact .inr begins.isInfix
        · have isEnd : rest ∈ (front ++ rest).tails :=
            (List.mem_tails _ _).mpr (List.suffix_append front rest)
          exact absurd begins (apart rest isEnd empty whole)
  · rcases found with first | last
    · exact List.infix_append_of_infix_left first
    · exact List.infix_append_of_infix_right last

end

end NimbleProxy.Theory.CutLines
