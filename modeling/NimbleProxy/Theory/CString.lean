/-
# Theory.CString -- strings that end at the first NUL

A `char *` into a buffer is seen as the bytes from there to the terminator. What C does
with it in place (find a character and put a terminator there, step over blanks, cut
blanks off the end) gives strings that do not overlap, and is done here on the strings.
For each of these there is the case in which it does what it is used for: a separator
that is where it is expected (`cut_append`), and nothing to step over or to cut off.
-/
import Mathlib.Data.List.DropRight
import Mathlib.Data.List.TakeWhile
import NimbleProxy.Theory.Bytes

namespace NimbleProxy.Theory.CString

set_option autoImplicit false

/-- The bytes of a literal. -/
def ascii (s : String) : List UInt8 := s.toList.map fun c => UInt8.ofNat c.toNat

/-- What a function makes of these bytes that takes them for a string. -/
def upToNul (bytes : List UInt8) : List UInt8 := bytes.takeWhile (· ≠ 0)

/-- The string in a buffer of `cap` bytes at `at_`. -/
def read (mem : Memory) (at_ cap : Nat) : List UInt8 := upToNul (mem.load at_ cap)

/-- `strchr`, and a terminator where it points: what is in front of it and what is behind. -/
def cut (c : UInt8) (s : List UInt8) : Option (List UInt8 × List UInt8) :=
  match s.dropWhile (· ≠ c) with
  | [] => none
  | _ :: rest => some (s.takeWhile (· ≠ c), rest)

/-- `while (*s == c) ++s`. -/
def skip (c : UInt8) (s : List UInt8) : List UInt8 := s.dropWhile (· = c)

/-- `isspace`. -/
def isSpace (c : UInt8) : Bool := c = 32 ∨ 9 ≤ c ∧ c ≤ 13

/-- Terminators over the blanks at the end. -/
def trimEnd (s : List UInt8) : List UInt8 := s.rdropWhile isSpace

/-- What a buffer of `cap` bytes holds up to its terminator. -/
@[ext]
structure Text (cap : Nat) where
  bytes : List UInt8
  short : bytes.length < cap
  noNul : 0 ∉ bytes
  deriving DecidableEq

/-- Bytes without NUL. -/
abbrev Str := { bytes : List UInt8 // 0 ∉ bytes }

/-- `strncpy` of a string into a buffer, with the last byte left to the terminator. -/
def Text.copy {cap : Nat} (s : Str) (room : 0 < cap := by decide) : Text cap where
  bytes := s.val.take (cap - 1)
  short := by
    have short := List.length_take_le (cap - 1) s.val
    omega
  noNul := fun mem => s.property (List.mem_of_mem_take mem)

def Text.str {cap : Nat} (text : Text cap) : Str := ⟨text.bytes, text.noNul⟩

/-- `strncpy` of at most `n` bytes into a field of `size` bytes that are zero. -/
def field (size n : Nat) (s : List UInt8) : List UInt8 :=
  s.take n ++ List.replicate (size - min n s.length) 0

variable {c : UInt8} {s rest : List UInt8}

theorem Text.copy_bytes {cap : Nat} {s : Str} {room : 0 < cap} (fits : s.val.length < cap) :
    (Text.copy s room).bytes = s.val :=
  List.take_of_length_le (by omega)

theorem Text.copy_str {cap : Nat} {room : 0 < cap} (text : Text cap) :
    Text.copy text.str room = text :=
  Text.ext (Text.copy_bytes text.short)

/-- A string is all of its field exactly if it is not cut. -/
theorem take_field_iff {size n : Nat} (noNul : 0 ∉ s) (fits : s.length ≤ size) :
    (field size n s).take s.length = s ↔ s.length ≤ n := by
  refine ⟨fun whole => ?_, fun short => ?_⟩
  · by_contra cut
    rw [Nat.not_le] at cut
    -- what stands behind the bytes that are copied is zero
    have zero : (field size n s)[n]? = some 0 := by
      rw [field, List.getElem?_append_right (List.length_take_le n s), List.length_take, Nat.min_eq_left cut.le,
        Nat.sub_self, List.getElem?_replicate_of_lt (by omega)]
    rw [← List.getElem?_take_of_lt cut, whole] at zero
    exact noNul (List.mem_of_getElem? zero)
  · rw [field, List.take_of_length_le short, List.take_left]

theorem upToNul_append (noNul : 0 ∉ s) (rest : List UInt8) : upToNul (s ++ 0 :: rest) = s := by
  rw [upToNul, List.takeWhile_append_of_pos, List.takeWhile_cons_of_neg, List.append_nil]
  · simp
  · intro c mem
    simpa using fun zero : c = 0 => noNul (zero ▸ mem)

/-- What stands behind the first NUL does not matter. -/
theorem upToNul_append_of_mem (terminated : 0 ∈ s) (rest : List UInt8) :
    upToNul (s ++ rest) = upToNul s := by
  obtain ⟨front, back, rfl, noNul⟩ := List.eq_append_cons_of_mem terminated
  rw [List.append_assoc, List.cons_append, upToNul_append noNul, upToNul_append noNul]

theorem upToNul_eq_self (noNul : 0 ∉ s) : upToNul s = s := by
  rw [upToNul, List.takeWhile_eq_self_iff]
  intro c mem
  simpa using fun zero : c = 0 => noNul (zero ▸ mem)

theorem zero_notMem_upToNul (bytes : List UInt8) : 0 ∉ upToNul bytes := by
  intro mem
  simpa using List.mem_takeWhile_imp mem

/-- A string that was stored with its terminator. -/
theorem read_store {mem : Memory} {at_ cap : Nat} (noNul : 0 ∉ s) (fits : s.length < cap) :
    read (mem.store at_ (s ++ [0])) at_ cap = s := by
  have split : cap = (s ++ [0]).length + (cap - (s.length + 1)) := by
    rw [List.length_append, List.length_singleton]
    omega
  rw [read, split, Memory.load_append, Memory.load_store, List.append_assoc]
  exact upToNul_append noNul _

theorem cut_append (free : c ∉ s) (rest : List UInt8) :
    cut c (s ++ c :: rest) = some (s, rest) := by
  have all : ∀ x ∈ s, decide (x ≠ c) = true := by
    intro x mem
    simpa using fun same : x = c => free (same ▸ mem)
  rw [cut, List.dropWhile_append_of_pos all, List.takeWhile_append_of_pos all]
  simp

/-- What is behind a separator is shorter. -/
theorem length_lt_of_cut {front : List UInt8} (found : cut c s = some (front, rest)) :
    rest.length < s.length := by
  unfold cut at found
  have split := List.takeWhile_append_dropWhile (p := (· ≠ c)) (l := s)
  cases back : s.dropWhile (· ≠ c) with
  | nil =>
      rw [back] at found
      cases found
  | cons x more =>
      rw [back] at found split
      cases found
      rw [← split, List.length_append, List.length_cons]
      omega

theorem skip_append (some_ : s ≠ []) (free : c ∉ s) (rest : List UInt8) :
    skip c (s ++ rest) = s ++ rest := by
  cases s with
  | nil => exact absurd rfl some_
  | cons x more =>
      apply List.dropWhile_cons_of_neg
      simpa using fun same : x = c => free (same ▸ List.mem_cons_self)

theorem isSpace_eq_false (printable : 32 < c) : isSpace c = false := by
  rw [isSpace, decide_eq_false_iff_not]
  rintro (rfl | ⟨-, low⟩)
  · exact absurd printable (by decide)
  · exact absurd (UInt8.lt_of_lt_of_le printable low) (by decide)

theorem trimEnd_eq_self (free : ∀ x ∈ s, isSpace x = false) : trimEnd s = s := by
  refine List.rdropWhile_eq_self_iff.mpr fun some_ => ?_
  simp [free _ (List.getLast_mem some_)]

end NimbleProxy.Theory.CString
