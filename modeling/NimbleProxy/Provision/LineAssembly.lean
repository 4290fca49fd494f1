/-
# Provision.LineAssembly -- the lines of the console

`append_rx` of `serial_provision.cpp` on a whole stream. What is in the buffer is computed
from the unfinished line alone (`held`): the buffer is emptied by the 512th byte of a line,
which is lost, and goes on with the next one. So a line that is too long is not dropped: what
is left of it behind the last such byte is handled as a line (`calls_eq`).

The string that `handle_line` gets ends at its first NUL.
-/
import NimbleProxy.Provision.SerialProvision

namespace NimbleProxy.Provision.LineAssembly

open NimbleProxy.Theory CString SerialProvision

set_option autoImplicit false

/-! ## The calls -/

/-- The line that `append_rx` hands to `handle_line`, if it does. -/
def handed (d : Device) (byte : UInt8) : Option (List UInt8) :=
  if d.rebooted = false ∧ byte = 10 then some (upToNul d.line.data) else none

/-- All of them in a stream, with what NVS answers at each byte. -/
def calls (d : Device) : List (UInt8 × Answers) → List (List UInt8)
  | [] => []
  | (byte, answers) :: rest => (handed d byte).toList ++ calls (appendRx answers d byte) rest

/-- The bytes that are fed: nothing is behind the restart. -/
def fed (d : Device) : List (UInt8 × Answers) → List UInt8
  | [] => []
  | (byte, answers) :: rest =>
      if d.rebooted then [] else byte :: fed (appendRx answers d byte) rest

/-! ## The lines -/

/-- The lines that a newline ends, without their carriage returns. -/
def ended (bytes : List UInt8) : List (List UInt8) :=
  ((bytes.filter (· ≠ 13)).splitOn 10).dropLast

/-- What the buffer holds of a line that has begun. -/
def held (line : List UInt8) : List UInt8 := line.drop (line.length / 512 * 512)

/-- What `handle_line` gets of a line. -/
def heard (line : List UInt8) : List UInt8 := upToNul (held line)

section Lines

variable {begun line rest : List UInt8} {c : UInt8}

theorem ended_begun (open_ : 10 ∉ begun) : ended begun = [] := by
  have none : 10 ∉ begun.filter (· ≠ 13) := fun mem => open_ (List.mem_of_mem_filter mem)
  rw [ended, List.splitOn_eq_singleton none]
  rfl

theorem ended_return (begun rest : List UInt8) : ended (begun ++ 13 :: rest) = ended (begun ++ rest) := by
  simp [ended]

theorem ended_newline (open_ : 10 ∉ begun) (noReturn : 13 ∉ begun) (rest : List UInt8) :
    ended (begun ++ 10 :: rest) = begun :: ended rest := by
  have same : begun.filter (· ≠ 13) = begun := by
    rw [List.filter_eq_self]
    intro x mem
    simpa using fun is : x = 13 => noReturn (is ▸ mem)
  rw [ended, List.filter_append, same, List.filter_cons_of_pos (by decide),
    List.splitOn_append_cons_self, List.splitOn_eq_singleton open_, List.singleton_append,
    List.dropLast_cons_of_ne_nil (List.splitOn_ne_nil _ _)]
  rfl

theorem length_held (line : List UInt8) : (held line).length = line.length % 512 := by
  rw [held, List.length_drop]
  omega

/-- A line that fits. -/
theorem held_of_short (short : line.length ≤ 511) : held line = line := by
  rw [held, Nat.div_eq_of_lt (by omega), Nat.zero_mul, List.drop_zero]

/-- One byte more, with room for it. -/
theorem held_snoc (room : (held line).length + 1 < 512) (c : UInt8) :
    held (line ++ [c]) = held line ++ [c] := by
  rw [length_held] at room
  have same : (line.length + 1) / 512 = line.length / 512 := by omega
  rw [held, held, List.length_append, List.length_singleton, same,
    List.drop_append_of_le_length (by omega)]

/-- And without: it is gone with all that was there. -/
theorem held_snoc_full (full : ¬ (held line).length + 1 < 512) (c : UInt8) :
    held (line ++ [c]) = [] := by
  rw [length_held] at full
  have size := length_held (line ++ [c])
  rw [List.length_append, List.length_singleton] at size
  apply List.eq_nil_of_length_eq_zero
  omega

/-- What is heard is a part of the line. -/
theorem heard_infix (line : List UInt8) : heard line <:+: line :=
  (List.takeWhile_prefix _).isInfix.trans (List.drop_suffix _ _).isInfix

end Lines

/-! ## A stream -/

section Stream

variable {d : Device} {begun : List UInt8} {answers : Answers} {byte : UInt8}

/-- `handle_line` is called with the line that is handed to it, and its result is acted on. -/
theorem appendRx_of_handed {line : List UInt8} (call : handed d byte = some line) :
    appendRx answers d byte =
      { line := {}
        nvs := (handleLine answers d.nvs line).1
        acks := d.acks ++ (handleLine answers d.nvs line).2.ack.toList
        rebooted := (handleLine answers d.nvs line).2.reboot } := by
  unfold handed at call
  split at call
  · rename_i newline
    cases call
    rw [appendRx, if_neg (by simp [newline.1]), if_neg (by simp [newline.2]), if_pos newline.2]
  · cases call

/-- Otherwise it is not called. -/
theorem appendRx_of_not_handed (none_ : handed d byte = none) :
    appendRx answers d byte = { d with line := (appendRx answers d byte).line } := by
  unfold handed at none_
  unfold appendRx
  split
  · rfl
  · rename_i up
    split
    · rfl
    · have other : byte ≠ 10 := by
        rintro rfl
        simp [up] at none_
      rw [if_neg other]
      split <;> rfl

/-- A byte of a line gets into the buffer, or empties it. -/
theorem line_appendRx (answers : Answers) (up : d.rebooted = false) (other : byte ≠ 13)
    (inLine : byte ≠ 10) (holds : d.line.data = held begun) :
    (appendRx answers d byte).line.data = held (begun ++ [byte]) := by
  rw [appendRx, if_neg (by simp [up]), if_neg other, if_neg inLine]
  split
  · rename_i room
    rw [holds] at room
    show d.line.data ++ [byte] = _
    rw [held_snoc room, holds]
  · rename_i full
    rw [holds] at full
    exact (held_snoc_full full byte).symm

theorem calls_of_rebooted (down : d.rebooted = true) (reads : List (UInt8 × Answers)) :
    calls d reads = [] := by
  induction reads with
  | nil => rfl
  | cons read rest ih =>
      have none_ : handed d read.1 = none := by simp [handed, down]
      have same : appendRx read.2 d read.1 = d := if_pos down
      rw [calls, none_, same, ih]
      rfl

theorem fed_of_rebooted (down : d.rebooted = true) (reads : List (UInt8 × Answers)) :
    fed d reads = [] := by
  cases reads with
  | nil => rfl
  | cons read rest => exact if_pos down

/-- **The calls**, from a line that has begun on: what is heard of each line that ends. -/
theorem calls_from (up : d.rebooted = false) (open_ : 10 ∉ begun) (noReturn : 13 ∉ begun)
    (holds : d.line.data = held begun) (reads : List (UInt8 × Answers)) :
    calls d reads = (ended (begun ++ fed d reads)).map heard := by
  induction reads generalizing d begun with
  | nil =>
      rw [fed, List.append_nil, ended_begun open_]
      rfl
  | cons read rest ih =>
      obtain ⟨byte, answers⟩ := read
      rw [calls, fed, if_neg (by simp [up])]
      by_cases newline : byte = 10
      · subst newline
        have call : handed d 10 = some (heard begun) := by
          rw [handed, if_pos ⟨up, rfl⟩, holds, heard]
        rw [call, ended_newline open_ noReturn, List.map_cons, Option.toList_some,
          List.singleton_append, appendRx_of_handed call]
        apply congrArg (heard begun :: ·)
        cases down : (handleLine answers d.nvs (heard begun)).2.reboot with
        | true => rw [calls_of_rebooted rfl, fed_of_rebooted rfl, ended_begun List.not_mem_nil]; rfl
        | false => exact ih rfl List.not_mem_nil List.not_mem_nil rfl
      · have none_ : handed d byte = none := if_neg fun both => newline both.2
        rw [none_, Option.toList_none, List.nil_append]
        by_cases isReturn : byte = 13
        · subst isReturn
          have same : appendRx answers d 13 = d := by
            rw [appendRx, if_neg (by simp [up]), if_pos rfl]
          rw [same, ended_return]
          exact ih up open_ noReturn holds
        · have step := line_appendRx answers up isReturn newline holds
          have still : (appendRx answers d byte).rebooted = false := by
            rw [appendRx_of_not_handed none_]
            exact up
          have more := ih still (by simp [open_, Ne.symm newline]) (by simp [noReturn, Ne.symm isReturn]) step
          rw [more, List.append_assoc, List.singleton_append]

theorem calls_eq (nvs : Nvs) (reads : List (UInt8 × Answers)) :
    calls { nvs } reads = (ended (fed { nvs } reads)).map heard :=
  calls_from rfl List.not_mem_nil List.not_mem_nil rfl reads

/-- A line is heard as it is exactly if it is short enough and has no NUL. -/
theorem map_heard_eq_iff (lines : List (List UInt8)) :
    lines.map heard = lines.filter (·.length ≤ 511) ↔
      ∀ line ∈ lines, line.length ≤ 511 ∧ 0 ∉ line := by
  have each : lines.map heard = lines ↔ ∀ line ∈ lines, heard line = line :=
    (Eq.congr_right (List.map_id lines).symm).trans List.map_eq_map_iff
  constructor
  · intro same line mem
    have all : lines.filter (·.length ≤ 511) = lines := by
      apply List.filter_sublist.eq_of_length
      rw [← same, List.length_map]
    have short : line.length ≤ 511 := by simpa using List.filter_eq_self.mp all line mem
    rw [all] at same
    have heard_ := each.mp same line mem
    rw [heard, held_of_short short] at heard_
    exact ⟨short, heard_ ▸ zero_notMem_upToNul line⟩
  · intro clean
    have all : lines.filter (·.length ≤ 511) = lines :=
      List.filter_eq_self.mpr fun line mem => by simpa using (clean line mem).1
    rw [all]
    apply each.mpr
    intro line mem
    rw [heard, held_of_short (clean line mem).1, upToNul_eq_self (clean line mem).2]

end Stream

/-- **The lines of a stream.** Each line that ends is handed over once, in order, as a part of
itself; and exactly the short ones are, as they are, exactly if none is longer than 511 bytes and
none has a NUL. -/
theorem line_assembly (nvs : Nvs) (reads : List (UInt8 × Answers)) :
    let lines := ended (fed { nvs } reads)
    calls { nvs } reads = lines.map heard ∧ (∀ line ∈ lines, heard line <:+: line) ∧
      (calls { nvs } reads = lines.filter (·.length ≤ 511) ↔
        ∀ line ∈ lines, line.length ≤ 511 ∧ 0 ∉ line) := by
  refine ⟨calls_eq nvs reads, fun line _ => heard_infix line, ?_⟩
  rw [calls_eq]
  exact map_heard_eq_iff _

/-- 512 bytes of noise with credentials behind them. -/
def noise : List (UInt8 × Answers) :=
  (List.replicate 512 97 ++ ascii "NBP-PROV1 YQ== -\n").map fun byte =>
    (byte, ⟨true, fun _ => true, true⟩)

/-- The line is too long, and its end is handled as a line. -/
theorem noise_heard :
    calls { nvs := fun _ => none } noise = [ascii "NBP-PROV1 YQ== -"] ∧
      (ended (fed { nvs := fun _ => none } noise)).filter (·.length ≤ 511) = [] := by
  decide +kernel

end NimbleProxy.Provision.LineAssembly
