/-
# Theory.Exchanges -- what one process says in a trace that all of them write

A trace has the events of all processes in the order in which they happen. What process `p`
says (`said`) is a list of its own, and a protocol for `p` alone speaks about that list: it
consists of complete exchanges, and then of the beginning of one (`Converses`). A step of
another process leaves it as it is, a step of `p` makes the last exchange longer
(`Converses.more`), and an exchange that is complete is put to the others
(`Converses.complete`).
-/
import Mathlib.Data.List.Basic

namespace NimbleProxy.Theory.Exchanges

set_option autoImplicit false

universe u v

variable {ε : Type u} {ι : Type v} [DecidableEq ι]

/-- The events of `p`. -/
def said (owner : ε → Option ι) (p : ι) (trace : List ε) : List ε :=
  trace.filter fun e => owner e = some p

section

variable (owner : ε → Option ι) {p : ι}

@[simp] theorem said_nil : said owner p [] = [] := rfl

theorem said_append (p : ι) (trace more : List ε) :
    said owner p (trace ++ more) = said owner p trace ++ said owner p more :=
  List.filter_append ..

theorem said_own {e : ε} (own : owner e = some p) (trace : List ε) :
    said owner p (trace ++ [e]) = said owner p trace ++ [e] := by
  have kept : said owner p [e] = [e] := List.filter_cons_of_pos (by simpa using own)
  rw [said_append, kept]

theorem said_other {e : ε} (other : owner e ≠ some p) (trace : List ε) :
    said owner p (trace ++ [e]) = said owner p trace := by
  have dropped : said owner p [e] = [] := List.filter_cons_of_neg (by simpa using other)
  rw [said_append, dropped, List.append_nil]

end

/-! ## Exchanges -/

/-- Complete exchanges one after the other, and then `part`. -/
def Converses (Exchange : List ε → Prop) (events part : List ε) : Prop :=
  ∃ done : List (List ε), events = done.flatten ++ part ∧ ∀ x ∈ done, Exchange x

section

variable {Exchange : List ε → Prop} {events part : List ε}

theorem converses_nil : Converses Exchange [] [] :=
  ⟨[], rfl, fun _ none_ => (List.not_mem_nil none_).elim⟩

theorem Converses.more (converses : Converses Exchange events part) (e : ε) :
    Converses Exchange (events ++ [e]) (part ++ [e]) := by
  obtain ⟨done, rfl, full⟩ := converses
  exact ⟨done, List.append_assoc .., full⟩

/-- **The last exchange is complete.** -/
theorem Converses.complete (converses : Converses Exchange events part) (isFull : Exchange part) :
    Converses Exchange events [] := by
  obtain ⟨done, rfl, full⟩ := converses
  refine ⟨done ++ [part], by simp, ?_⟩
  intro x inside
  rcases List.mem_append.mp inside with before | last
  · exact full x before
  · rw [List.mem_singleton.mp last]
    exact isFull

end

end NimbleProxy.Theory.Exchanges
