/-
# DhcpsHostname.Extraction -- the host name of a DHCP message

`extract_hostname` of `dhcps_hostname.c` walks the options of a message, which are what the
client has sent, and `nbp_dhcps_post_state` records the name it finds. The walk is on the
array of the message with an index; a read behind the array would be the outcome `outside`.
There is none, and what is found is the printable form of the first host name that is met
(`extractHostname_eq`). So every name in the registry is one that GET /nat can print
(`lookup_heard`).

`struct dhcps_msg` is taken with an array of any size.
-/
import NimbleProxy.DhcpsHostname.Registry
import NimbleProxy.Theory.TaggedOptions

namespace NimbleProxy.DhcpsHostname.Extraction

open NimbleProxy.Theory CString TaggedOptions
open NimbleProxy.NatRouter.NatJson (Mac Hostname)
open NimbleProxy.DhcpsHostname.Registry (Table Entry record lookup entries queue stored after follows)

set_option autoImplicit false

variable {size : Nat}

/-- `c >= 0x20 && c < 0x7f ? c : '?'`. -/
def shown (c : UInt8) : UInt8 := if 0x20 ≤ c ∧ c < 0x7f then c else 63

/-- The loop that copies `n` bytes from `i` on; none if it reads outside of the array. -/
def copyName (options : Vector UInt8 size) : Nat → Nat → Option (List UInt8)
  | 0, _ => some []
  | n + 1, i =>
      match options[i]? with
      | none => none
      | some c => if c = 0 then some [] else (copyName options n (i + 1)).map (shown c :: ·)

inductive Outcome
  /-- a read outside of the array -/
  | outside
  /-- out of fuel -/
  | unfinished
  /-- the answer, and the string in `out` -/
  | answer (found : Bool) (out : List UInt8)
  deriving DecidableEq

/-- The loop of `extract_hostname`, with `opt` as an index. -/
def walk (options : Vector UInt8 size) (cap : Nat) : Nat → Nat → Outcome
  | 0, _ => .unfinished
  | fuel + 1, opt =>
      if opt < size then
        match options[opt]? with
        | none => .outside
        | some code =>
            if code = 255 then .answer false []
            else if code = 0 then walk options cap fuel (opt + 1)
            else if size < opt + 2 then .answer false []
            else
              match options[opt + 1]? with
              | none => .outside
              | some olen =>
                  if size < opt + 2 + olen.toNat then .answer false []
                  else if code = 12 ∧ 0 < olen then
                    match copyName options (if olen.toNat < cap - 1 then olen.toNat else cap - 1)
                        (opt + 2) with
                    | none => .outside
                    | some out => .answer (!out.isEmpty) out
                  else walk options cap fuel (opt + 2 + olen.toNat)
      else .answer false []

/-- `extract_hostname`. There are as many rounds as bytes at most, and one that ends the loop. -/
def extractHostname (options : Vector UInt8 size) (cap : Nat) : Outcome :=
  if cap = 0 then .answer false [] else walk options cap (size + 1) 4

/-- What the hook reads of a `struct dhcps_msg`. -/
structure Message (size : Nat) where
  /-- the first six bytes of `chaddr` -/
  chaddr : Mac
  options : Vector UInt8 size

/-- `nbp_dhcps_post_state`. -/
def postState (t : Table) (msg : Option (Message size)) (_len state : Int16) : Table × Int16 :=
  match msg with
  | none => (t, state)
  | some m =>
      match extractHostname m.options 32 with
      | .answer true name => (record t (m.chaddr, ⟨upToNul name, zero_notMem_upToNul name⟩), state)
      | _ => (t, state)

/-! ## The name that is meant -/

/-- A host name that is not empty. -/
def isName (o : UInt8 × List UInt8) : Bool := o.1 = 12 && !o.2.isEmpty

/-- The name of a value: its first bytes up to a NUL, printable. -/
def nameOf (cap : Nat) (value : List UInt8) : List UInt8 :=
  (upToNul (value.take (cap - 1))).map shown

/-- The name of the first host name among some options. -/
def firstName (cap : Nat) (options : List (UInt8 × List UInt8)) : List UInt8 :=
  match options.find? isName with
  | some o => nameOf cap o.2
  | none => []

/-- The answer with the first name of some options. -/
def answer (cap : Nat) (options : List (UInt8 × List UInt8)) : Outcome :=
  .answer (!(firstName cap options).isEmpty) (firstName cap options)

section Walk

variable {options : Vector UInt8 size} {cap : Nat}

/-- What is read at an index. -/
theorem getElem?_eq_drop {i : Nat} {c : UInt8} {rest : List UInt8}
    (split : options.toList.drop i = c :: rest) : options[i]? = some c := by
  rw [← Vector.getElem?_toList]
  have first := congrArg List.head? split
  rwa [List.head?_drop] at first

variable (options) in
theorem copyName_eq (n i : Nat) (inside : i + n ≤ size) :
    copyName options n i = some ((upToNul ((options.toList.drop i).take n)).map shown) := by
  induction n generalizing i with
  | zero => rfl
  | succ n ih =>
      have total : (options.toList.drop i).length = size - i := by
        rw [List.length_drop, Vector.length_toList]
      cases split : options.toList.drop i with
      | nil =>
          rw [split, List.length_nil] at total
          omega
      | cons c rest =>
          have later := ih (i + 1) (by omega)
          rw [← List.drop_drop, split] at later
          rw [copyName, getElem?_eq_drop split, List.take_succ_cons]
          dsimp only
          by_cases zero : c = 0
          · have ends : upToNul (c :: rest.take n) = [] := List.takeWhile_cons_of_neg (by simp [zero])
            rw [if_pos zero, ends]
            rfl
          · have goes : upToNul (c :: rest.take n) = c :: upToNul (rest.take n) :=
              List.takeWhile_cons_of_pos (by simp [zero])
            rw [if_neg zero, later, goes]
            rfl

/-- The first name, with an option in front of the others. -/
theorem firstName_cons_of_isName {o : UInt8 × List UInt8} {rest : List (UInt8 × List UInt8)}
    (name : isName o = true) : firstName cap (o :: rest) = nameOf cap o.2 := by
  rw [firstName, List.find?_cons_of_pos name]

theorem firstName_cons_of_not {o : UInt8 × List UInt8} {rest : List (UInt8 × List UInt8)}
    (other : ¬ isName o = true) : firstName cap (o :: rest) = firstName cap rest := by
  rw [firstName, List.find?_cons_of_neg other, firstName]

/-- Which options are copied. -/
theorem isName_take_iff {code olen : UInt8} {rest : List UInt8} (fits : olen.toNat ≤ rest.length) :
    isName (code, rest.take olen.toNat) = true ↔ code = 12 ∧ 0 < olen := by
  have some_ : rest.take olen.toNat ≠ [] ↔ 0 < olen := by
    rw [← List.length_pos_iff, List.length_take, Nat.min_eq_left fits]
    exact (UInt8.lt_iff_toNat_lt (a := 0)).symm
  rw [← some_]
  simp [isName]

/-- **The walk**, from any index on. -/
theorem walk_eq (fuel opt : Nat) (enough : size ≤ fuel + opt) :
    walk options cap (fuel + 1) opt = answer cap (met 0 255 (options.toList.drop opt)) := by
  induction fuel generalizing opt with
  | zero =>
      rw [List.drop_of_length_le (by rw [Vector.length_toList]; omega), met_nil, walk,
        if_neg (by omega)]
      rfl
  | succ fuel ih =>
      rw [walk]
      have total : (options.toList.drop opt).length = size - opt := by
        rw [List.length_drop, Vector.length_toList]
      cases split : options.toList.drop opt with
      | nil =>
          rw [split, List.length_nil] at total
          rw [met_nil, if_neg (by omega)]
          rfl
      | cons code rest =>
          rw [split, List.length_cons] at total
          have next : options.toList.drop (opt + 1) = rest := by
            rw [← List.drop_drop, split]
            rfl
          rw [if_pos (by omega), getElem?_eq_drop split]
          dsimp only
          by_cases stop : code = 255
          · rw [if_pos stop, met_stop stop]
            rfl
          rw [if_neg stop]
          by_cases pad : code = 0
          · rw [if_pos pad, met_pad stop pad, ih (opt + 1) (by omega), next]
          rw [if_neg pad]
          cases rest with
          | nil =>
              rw [List.length_nil] at total
              rw [if_pos (by omega), met_singleton]
              rfl
          | cons olen rest =>
              rw [List.length_cons] at total
              have value : options.toList.drop (opt + 2) = rest := by
                rw [show opt + 2 = opt + 1 + 1 from rfl, ← List.drop_drop, next]
                rfl
              rw [if_neg (by omega), getElem?_eq_drop next]
              dsimp only
              by_cases short : rest.length < olen.toNat
              · rw [if_pos (by omega), met_short stop pad short]
                rfl
              rw [if_neg (by omega), met_option stop pad (Nat.le_of_not_lt short)]
              by_cases name : code = 12 ∧ 0 < olen
              · have isName_ := (isName_take_iff (Nat.le_of_not_lt short)).mpr name
                have copied := copyName_eq options
                  (if olen.toNat < cap - 1 then olen.toNat else cap - 1) (opt + 2) (by split <;> omega)
                have taken : rest.take (if olen.toNat < cap - 1 then olen.toNat else cap - 1) =
                    (rest.take olen.toNat).take (cap - 1) := by
                  rw [List.take_take]
                  congr 1
                  split <;> omega
                rw [value, taken] at copied
                rw [if_pos name, copied, answer, firstName_cons_of_isName isName_]
                rfl
              · have other := mt (isName_take_iff (Nat.le_of_not_lt short)).mp name
                have later := ih (opt + 2 + olen.toNat) (by omega)
                rw [← List.drop_drop, value] at later
                rw [if_neg name, later, answer, answer, firstName_cons_of_not other]

/-- **What is extracted.** -/
theorem extractHostname_eq (options : Vector UInt8 size) (some_ : 0 < cap) :
    extractHostname options cap = answer cap (met 0 255 (options.toList.drop 4)) := by
  rw [extractHostname, if_neg some_.ne', walk_eq size 4 (Nat.le_add_right size 4)]

end Walk

/-! ## What gets into the registry -/

section Names

variable {options : List (UInt8 × List UInt8)} {cap : Nat}

theorem shown_printable (c : UInt8) : 32 ≤ shown c ∧ shown c < 127 := by
  unfold shown
  split
  · assumption
  · decide

/-- A name has room for its terminator, and is printable. -/
theorem firstName_facts (some_ : 0 < cap) :
    (firstName cap options).length < cap ∧ ∀ c ∈ firstName cap options, 32 ≤ c ∧ c < 127 := by
  unfold firstName
  split
  · rename_i o _
    constructor
    · have short := (List.takeWhile_prefix (l := o.2.take (cap - 1)) (fun x => decide (x ≠ 0))).length_le
      have cut := List.length_take_le (cap - 1) o.2
      rw [nameOf, List.length_map, upToNul]
      omega
    · intro c mem
      obtain ⟨c', -, rfl⟩ := List.mem_map.mp mem
      exact shown_printable c'
  · exact ⟨some_, fun c mem => absurd mem List.not_mem_nil⟩

/-- What a message does to the table. -/
theorem postState_some (t : Table) (m : Message size) (len state : Int16) :
    postState t (some m) len state =
      if firstName 32 (met 0 255 (m.options.toList.drop 4)) = [] then (t, state)
      else
        (record t (m.chaddr, ⟨upToNul (firstName 32 (met 0 255 (m.options.toList.drop 4))),
          zero_notMem_upToNul _⟩), state) := by
  rw [postState, extractHostname_eq m.options (by decide), answer]
  cases firstName 32 (met 0 255 (m.options.toList.drop 4)) with
  | nil => rfl
  | cons c rest => rfl

/-- The table after some messages. -/
def heard (msgs : List (Option (Message size))) : Table :=
  msgs.foldl (fun t msg => (postState t msg 0 0).1) (after [])

/-- The table after some messages is one after some records of printable names. -/
theorem heard_eq_after (msgs : List (Option (Message size))) :
    ∃ calls, heard msgs = after calls ∧ ∀ c ∈ calls, ∀ b ∈ c.2.val, 32 ≤ b ∧ b < 127 := by
  induction msgs using List.reverseRecOn with
  | nil => exact ⟨[], rfl, fun c mem => absurd mem List.not_mem_nil⟩
  | append_singleton msgs msg ih =>
      obtain ⟨calls, same, printable⟩ := ih
      have step : heard (msgs ++ [msg]) = (postState (heard msgs) msg 0 0).1 := by
        rw [heard, List.foldl_append]
        rfl
      rw [step, same]
      cases msg with
      | none => exact ⟨calls, rfl, printable⟩
      | some m =>
          rw [postState_some]
          split
          · exact ⟨calls, rfl, printable⟩
          · refine ⟨_, (List.foldl_concat record {} _ calls).symm, ?_⟩
            intro c mem
            rcases List.mem_append.mp mem with old | new
            · exact printable c old
            · rw [List.mem_singleton.mp new]
              intro b inName
              exact (firstName_facts (by decide)).2 b ((List.takeWhile_prefix _).subset inName)

/-- **What GET /nat prints**: the lookup of `append_stations_json` gives a printable name, and an empty
one where it finds none. -/
theorem lookup_heard (msgs : List (Option (Message size))) (mac : Mac) :
    ∃ name : Hostname, lookup (heard msgs) mac 32 = (!name.bytes.isEmpty, some name.bytes) := by
  obtain ⟨calls, same, printable⟩ := heard_eq_after msgs
  obtain ⟨-, follows⟩ := follows calls
  rw [same, lookup]
  cases found : (after calls).tbl.toList.find? (Entry.has mac) with
  | none => exact ⟨⟨[], by decide, fun c mem => absurd mem List.not_mem_nil⟩, rfl⟩
  | some e =>
      have has := Bool.and_eq_true_iff.mp (show Entry.has mac e = true from List.find?_some found)
      have entry : e.pair ∈ entries (after calls) :=
        List.mem_map_of_mem (List.mem_filter.mpr ⟨List.mem_of_find?_eq_some found, has.1⟩)
      have last := follows.values e.pair (by rwa [queue, List.mem_rotate])
      obtain ⟨front, back, split, -⟩ := List.lookup_eq_some_iff.mp last
      have among : (e.mac, e.name) ∈ calls.map stored := by
        rw [← List.mem_reverse, split]
        exact List.mem_append_right _ List.mem_cons_self
      obtain ⟨c, mem, own⟩ := List.mem_map.mp among
      have copied : e.name.bytes = c.2.val.take 31 := by
        rw [← (Prod.mk.inj own).2]
        rfl
      refine ⟨⟨e.name.bytes, Nat.le_of_lt_succ e.name.short, fun b inName => ?_⟩, ?_⟩
      · rw [copied] at inName
        exact printable c mem b (List.mem_of_mem_take inName)
      · show (_, some (e.name.bytes.take 31)) = _
        rw [List.take_of_length_le (Nat.le_of_lt_succ e.name.short)]

/-- **Host names of messages.** The walk stays in the array and ends, and answers with the first name
among the options behind the cookie; the hook returns the state it is given. -/
theorem dhcp_hostname (options : Vector UInt8 size) (cap : Nat) (some_ : 0 < cap) :
    extractHostname options cap = answer cap (met 0 255 (options.toList.drop 4)) ∧
      (firstName cap (met 0 255 (options.toList.drop 4))).length < cap ∧
      ∀ (t : Table) (msg : Option (Message size)) (len state : Int16),
        (postState t msg len state).2 = state := by
  refine ⟨extractHostname_eq options some_, (firstName_facts some_).1, fun t msg len state => ?_⟩
  cases msg with
  | none => rfl
  | some m =>
      rw [postState_some]
      split <;> rfl

/-- A pad, the type of the message, and a name that is filled up with a NUL. -/
theorem dhcp_hostname_phone :
    firstName 32 (met 0 255 [0, 53, 1, 1, 12, 5, 80, 105, 9, 120, 0, 255]) = ascii "Pi?x" := by
  have said := (dhcp_hostname #v[99, 130, 83, 99, 0, 53, 1, 1, 12, 5, 80, 105, 9, 120, 0, 255] 32
    (by decide)).1
  have run : extractHostname #v[99, 130, 83, 99, 0, 53, 1, 1, 12, 5, 80, 105, 9, 120, 0, 255] 32 =
      .answer true (ascii "Pi?x") := by
    decide
  rw [run] at said
  exact (Outcome.answer.inj said).2.symm

end Names

end NimbleProxy.DhcpsHostname.Extraction
