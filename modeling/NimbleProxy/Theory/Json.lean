/-
# Theory.Json -- JSON texts as bytes

A reader for JSON texts without blanks, whose numbers are integers. Strings are the
bytes between the quotes with the escapes undone: an escape with a code point stands for
its UTF-8 encoding, and every byte from 32 on that is neither a quote nor a backslash for
itself. `render` writes a value with as few escapes as there can be, and
`parse_render` says that the reader has it back.

The reader consumes the front of a list and gives the rest; fuel bounds its recursion, and
as much fuel as there are bytes is enough. Lists of items and of members are one
function (`elements`) with the reader of an item as a parameter.
-/
import Mathlib.Data.List.TakeWhile
import Mathlib.Data.Nat.Digits.Lemmas

namespace NimbleProxy.Theory

set_option autoImplicit false

inductive Json
  | num (n : Int)
  | str (s : List UInt8)
  | arr (items : List Json)
  | obj (members : List (List UInt8 × Json))
  | bool (b : Bool)
  | null

namespace Json

theorem sizeOf_item_lt {items : List Json} {item : Json} (mem : item ∈ items) :
    sizeOf item < sizeOf (arr items) := by
  have := List.sizeOf_lt_of_mem mem
  simp only [arr.sizeOf_spec]
  omega

theorem sizeOf_member_lt {members : List (List UInt8 × Json)} {m : List UInt8 × Json}
    (mem : m ∈ members) : sizeOf m.2 < sizeOf (obj members) := by
  have := List.sizeOf_lt_of_mem mem
  obtain ⟨key, value⟩ := m
  simp only [obj.sizeOf_spec, Prod.mk.sizeOf_spec] at this ⊢
  omega

/-! ## Writing -/

/-- A number below 16. -/
def hexDigit (v : Nat) : UInt8 := UInt8.ofNat (if v < 10 then 48 + v else 87 + v)

/-- `%04x`. -/
def hex4 (n : Nat) : List UInt8 :=
  [hexDigit (n / 4096 % 16), hexDigit (n / 256 % 16), hexDigit (n / 16 % 16), hexDigit (n % 16)]

def escape (c : UInt8) : List UInt8 :=
  if c = 34 ∨ c = 92 then [92, c] else if c < 32 then 92 :: 117 :: hex4 c.toNat else [c]

def quote (s : List UInt8) : List UInt8 := 34 :: (s.flatMap escape ++ [34])

/-- `%lu`. -/
def decimal (n : Nat) : List UInt8 :=
  if n = 0 then [48] else ((Nat.digits 10 n).map fun d => UInt8.ofNat (48 + d)).reverse

/-- `%ld`. -/
def integer : Int → List UInt8
  | .ofNat n => decimal n
  | .negSucc n => 45 :: decimal (n + 1)

theorem integer_natCast (n : Nat) : integer n = decimal n := rfl

/-- `true` and `false`. -/
def boolText (b : Bool) : List UInt8 :=
  if b then [116, 114, 117, 101] else [102, 97, 108, 115, 101]

/-- `null`. -/
def nullText : List UInt8 := [110, 117, 108, 108]

/-- With commas between them. -/
def separated : List (List UInt8) → List UInt8
  | [] => []
  | text :: texts => text ++ texts.flatMap (44 :: ·)

def render : Json → List UInt8
  | num n => integer n
  | str s => quote s
  | arr items => 91 :: (separated (items.map fun item => render item) ++ [93])
  | obj members =>
      123 :: (separated (members.map fun m => quote m.1 ++ 58 :: render m.2) ++ [125])
  | bool b => boolText b
  | null => nullText
termination_by v => sizeOf v
decreasing_by
  · exact sizeOf_item_lt ‹_›
  · exact sizeOf_member_lt ‹_›

/-- A member of an object. -/
def memberText (m : List UInt8 × Json) : List UInt8 := quote m.1 ++ 58 :: m.2.render

/-! ## Reading -/

def isDigit (c : UInt8) : Bool := 48 ≤ c ∧ c ≤ 57

/-- A natural number without leading zeros. -/
def readNatural (bytes : List UInt8) : Option (Nat × List UInt8) :=
  let digits := bytes.takeWhile isDigit
  if digits = [] ∨ digits.head? = some 48 ∧ digits.length ≠ 1 then none
  else some (Nat.ofDigits 10 (digits.reverse.map fun c => c.toNat - 48), bytes.dropWhile isDigit)

def readInteger (bytes : List UInt8) : Option (Int × List UInt8) :=
  if bytes.head? = some 45 then (readNatural bytes.tail).map fun (n, rest) => (-(n : Int), rest)
  else (readNatural bytes).map fun (n, rest) => ((n : Int), rest)

def hexValue (c : UInt8) : Option Nat :=
  if 48 ≤ c ∧ c ≤ 57 then some (c.toNat - 48)
  else if 97 ≤ c ∧ c ≤ 102 then some (c.toNat - 87)
  else if 65 ≤ c ∧ c ≤ 70 then some (c.toNat - 55)
  else none

/-- The encoding of a code point below 65536 that is no surrogate. -/
def utf8 (n : Nat) : Option (List UInt8) :=
  if n < 128 then some [UInt8.ofNat n]
  else if n < 2048 then some [UInt8.ofNat (192 + n / 64), UInt8.ofNat (128 + n % 64)]
  else if 55296 ≤ n ∧ n < 57344 then none
  else some [UInt8.ofNat (224 + n / 4096), UInt8.ofNat (128 + n / 64 % 64),
    UInt8.ofNat (128 + n % 64)]

/-- The four digits behind `\u`. -/
def readUnicode : List UInt8 → Option (List UInt8 × List UInt8)
  | a :: b :: c :: d :: rest => do
      let a ← hexValue a
      let b ← hexValue b
      let c ← hexValue c
      let d ← hexValue d
      let bytes ← utf8 (4096 * a + 256 * b + 16 * c + d)
      return (bytes, rest)
  | _ => none

/-- What follows a backslash, and what it stands for. -/
def escapes : List (UInt8 × UInt8) :=
  [(34, 34), (92, 92), (47, 47), (98, 8), (102, 12), (110, 10), (114, 13), (116, 9)]

/-- A character of a string. -/
def readChar : List UInt8 → Option (List UInt8 × List UInt8)
  | [] => none
  | [c] => if c = 92 ∨ c < 32 then none else some ([c], [])
  | c :: e :: rest =>
      if c = 92 then
        if e = 117 then readUnicode rest
        else (escapes.lookup e).map fun byte => ([byte], rest)
      else if c < 32 then none
      else some ([c], e :: rest)

/-- A string from behind its first quote. -/
def readString : Nat → List UInt8 → Option (List UInt8 × List UInt8)
  | 0, _ => none
  | fuel + 1, bytes =>
      if bytes.head? = some 34 then some ([], bytes.tail)
      else do
        let (c, rest) ← readChar bytes
        let (s, rest) ← readString fuel rest
        return (c ++ s, rest)

section Elements

variable {α : Type} (close : UInt8) (item : List UInt8 → Option (α × List UInt8))

/-- Some items, up to `close`. -/
def readElements : Nat → List UInt8 → Option (List α × List UInt8)
  | 0, _ => none
  | fuel + 1, bytes => do
      let (x, rest) ← item bytes
      if rest.head? = some close then return ([x], rest.tail)
      if rest.head? ≠ some 44 then none
      let (xs, rest) ← readElements fuel rest.tail
      return (x :: xs, rest)

/-- Any number of items, up to `close`. -/
def readList (fuel : Nat) (bytes : List UInt8) : Option (List α × List UInt8) :=
  if bytes.head? = some close then some ([], bytes.tail)
  else readElements close item fuel bytes

/-- A member of an object, with the reader of its value. -/
def readMember (fuel : Nat) (bytes : List UInt8) : Option ((List UInt8 × α) × List UInt8) := do
  if bytes.head? ≠ some 34 then none
  let (key, rest) ← readString fuel bytes.tail
  if rest.head? ≠ some 58 then none
  let (value, rest) ← item rest.tail
  return ((key, value), rest)

end Elements

/-- The literals. -/
def words : List (List UInt8 × Json) :=
  [(boolText true, bool true), (boolText false, bool false), (nullText, null)]

def readWord (bytes : List UInt8) : Option (Json × List UInt8) :=
  (words.find? fun word => word.1.isPrefixOf bytes).map fun word =>
    (word.2, bytes.drop word.1.length)

def read : Nat → List UInt8 → Option (Json × List UInt8)
  | 0, _ => none
  | fuel + 1, bytes =>
      if bytes.head? = some 34 then
        (readString fuel bytes.tail).map fun (s, rest) => (str s, rest)
      else if bytes.head? = some 91 then
        (readList 93 (read fuel) fuel bytes.tail).map fun (items, rest) => (arr items, rest)
      else if bytes.head? = some 123 then
        (readList 125 (readMember (read fuel) fuel) fuel bytes.tail).map fun (members, rest) =>
          (obj members, rest)
      else (readWord bytes).or ((readInteger bytes).map fun (n, rest) => (num n, rest))

/-- The value of a text. -/
def parse (bytes : List UInt8) : Option Json :=
  match read bytes.length bytes with
  | some (v, []) => some v
  | _ => none

theorem hexDigit_ne_zero : ∀ v < 16, hexDigit v ≠ 0 := by
  decide

theorem zero_notMem_hex4 (n : Nat) : 0 ∉ hex4 n := by
  have each (k : Nat) : hexDigit (k % 16) ≠ 0 := hexDigit_ne_zero _ (Nat.mod_lt k (by decide))
  simp [hex4, Ne.symm (each _)]

/-! ## Numbers -/

/-- What follows a number in a text: no further digit. -/
def Stops (rest : List UInt8) : Prop := rest.takeWhile isDigit = []

theorem stops_nil : Stops [] := rfl

theorem stops_cons {c : UInt8} (other : isDigit c = false) (rest : List UInt8) :
    Stops (c :: rest) :=
  List.takeWhile_cons_of_neg (by simp [other])

theorem digit_facts : ∀ d < 10,
    isDigit (UInt8.ofNat (48 + d)) = true ∧ (UInt8.ofNat (48 + d)).toNat - 48 = d ∧
      (UInt8.ofNat (48 + d) = 48 → d = 0) := by
  decide

theorem decimal_isDigit (n : Nat) : ∀ c ∈ decimal n, isDigit c = true := by
  unfold decimal
  split
  · exact List.forall_mem_singleton.mpr rfl
  · intro c mem
    obtain ⟨d, digit, rfl⟩ := List.mem_map.mp (List.mem_reverse.mp mem)
    exact (digit_facts d (Nat.digits_lt_base (by decide) digit)).1

theorem decimal_ne_nil (n : Nat) : decimal n ≠ [] := by
  unfold decimal
  split
  · decide
  · rename_i positive
    simpa [Nat.digits_eq_nil_iff_eq_zero] using positive

theorem decimal_leading {n : Nat} (zero : (decimal n).head? = some 48) :
    (decimal n).length = 1 := by
  unfold decimal at zero ⊢
  split at zero
  · rw [if_pos ‹_›]
    rfl
  · rename_i positive
    have some_ : Nat.digits 10 n ≠ [] := Nat.digits_ne_nil_iff_ne_zero.mpr positive
    rw [List.head?_reverse, List.getLast?_map, List.getLast?_eq_some_getLast some_,
      Option.map_some, Option.some.injEq] at zero
    have small := Nat.digits_lt_base (by decide) (List.getLast_mem some_)
    have last := (digit_facts _ small).2.2 zero
    exact absurd last (Nat.getLast_digit_ne_zero 10 positive)

theorem decimal_value (n : Nat) :
    Nat.ofDigits 10 ((decimal n).reverse.map fun c => c.toNat - 48) = n := by
  unfold decimal
  split
  · rename_i zero
    rw [zero]
    rfl
  · have same : (Nat.digits 10 n).map (fun d => (UInt8.ofNat (48 + d)).toNat - 48) =
        Nat.digits 10 n := by
      refine (List.map_congr_left fun d mem => ?_).trans (List.map_id _)
      exact (digit_facts d (Nat.digits_lt_base (by decide) mem)).2.1
    rw [List.reverse_reverse, List.map_map]
    exact (congrArg _ same).trans (Nat.ofDigits_digits 10 n)

theorem readNatural_decimal (n : Nat) {rest : List UInt8} (stops : Stops rest) :
    readNatural (decimal n ++ rest) = some (n, rest) := by
  have taken : (decimal n ++ rest).takeWhile isDigit = decimal n := by
    rw [List.takeWhile_append_of_pos (decimal_isDigit n), stops, List.append_nil]
  have dropped : (decimal n ++ rest).dropWhile isDigit = rest := by
    rw [List.dropWhile_append_of_pos (decimal_isDigit n)]
    have whole := List.takeWhile_append_dropWhile (p := isDigit) (l := rest)
    rwa [stops, List.nil_append] at whole
  have legal : ¬ (decimal n = [] ∨ (decimal n).head? = some 48 ∧ (decimal n).length ≠ 1) := by
    rintro (empty | ⟨zero, long⟩)
    · exact decimal_ne_nil n empty
    · exact long (decimal_leading zero)
  simp only [readNatural, taken, dropped, if_neg legal, decimal_value]

theorem decimal_head (n : Nat) (rest : List UInt8) :
    ∃ c, (decimal n ++ rest).head? = some c ∧ isDigit c = true := by
  cases text : decimal n with
  | nil => exact absurd text (decimal_ne_nil n)
  | cons c more => exact ⟨c, rfl, decimal_isDigit n c (text ▸ List.mem_cons_self)⟩

theorem readInteger_integer (i : Int) {rest : List UInt8} (stops : Stops rest) :
    readInteger (integer i ++ rest) = some (i, rest) := by
  cases i with
  | ofNat n =>
      obtain ⟨c, head, digit⟩ := decimal_head n rest
      have plain : ¬ (decimal n ++ rest).head? = some 45 := by
        rw [head, Option.some.injEq]
        rintro rfl
        exact absurd digit (by decide)
      rw [integer, readInteger, if_neg plain, readNatural_decimal n stops]
      rfl
  | negSucc n =>
      rw [integer, List.cons_append, readInteger, if_pos List.head?_cons, List.tail_cons,
        readNatural_decimal (n + 1) stops]
      rfl

theorem zero_notMem_decimal (n : Nat) : 0 ∉ decimal n :=
  fun mem => absurd (decimal_isDigit n 0 mem) (by decide)

theorem zero_notMem_integer (i : Int) : 0 ∉ integer i := by
  cases i with
  | ofNat n => exact zero_notMem_decimal n
  | negSucc n => simpa [integer] using zero_notMem_decimal (n + 1)

/-! ## Strings -/

theorem hexValue_hexDigit : ∀ v < 16, hexValue (hexDigit v) = some v := by
  decide

theorem readUnicode_hex4 {n : Nat} (small : n < 128) (rest : List UInt8) :
    readUnicode (hex4 n ++ rest) = some ([UInt8.ofNat n], rest) := by
  have value (k : Nat) : hexValue (hexDigit (k % 16)) = some (k % 16) :=
    hexValue_hexDigit _ (Nat.mod_lt k (by decide))
  have whole : 4096 * (n / 4096 % 16) + 256 * (n / 256 % 16) + 16 * (n / 16 % 16) + n % 16 = n := by
    omega
  simp only [readUnicode, hex4, List.cons_append, List.nil_append, value, Option.bind_eq_bind,
    Option.bind_some, whole, utf8, if_pos small]
  rfl

theorem readChar_escape (c : UInt8) (rest : List UInt8) :
    readChar (escape c ++ rest) = some ([c], rest) := by
  unfold escape
  split
  · rename_i special
    rcases special with rfl | rfl <;> rfl
  · rename_i plain
    rw [not_or] at plain
    split
    · rename_i control
      have small : c.toNat < 128 := by
        rw [UInt8.lt_iff_toNat_lt] at control
        exact control.trans (by decide)
      have read := readUnicode_hex4 small rest
      rw [UInt8.ofNat_toNat] at read
      exact read
    · rename_i printable
      cases rest with
      | nil => simp [readChar, plain.2, printable]
      | cons e rest => simp [readChar, plain.2, printable]

theorem escape_head (c : UInt8) (rest : List UInt8) :
    (escape c ++ rest).head? ≠ some 34 := by
  unfold escape
  split
  · simp
  · rename_i plain
    split
    · simp
    · simpa using fun quote => plain (.inl quote)

theorem length_escape_pos (c : UInt8) : 0 < (escape c).length := by
  unfold escape
  split
  · exact Nat.zero_lt_succ _
  · split <;> exact Nat.zero_lt_succ _

theorem readString_escape {s : List UInt8} {fuel : Nat} (enough : s.length < fuel)
    (rest : List UInt8) : readString fuel (s.flatMap escape ++ 34 :: rest) = some (s, rest) := by
  induction s generalizing fuel with
  | nil =>
      obtain ⟨fuel, rfl⟩ := Nat.exists_eq_succ_of_ne_zero enough.ne'
      rfl
  | cons c more ih =>
      rw [List.length_cons] at enough
      obtain ⟨fuel, rfl⟩ := Nat.exists_eq_succ_of_ne_zero (Nat.ne_zero_of_lt enough)
      have tail := ih (Nat.lt_of_succ_lt_succ enough)
      rw [List.flatMap_cons, List.append_assoc, readString, if_neg (escape_head c _)]
      simp [readChar_escape, tail]

theorem length_le_quote (s : List UInt8) : s.length + 2 ≤ (quote s).length := by
  have escaped : s.length ≤ (s.flatMap escape).length := by
    induction s with
    | nil => exact Nat.zero_le _
    | cons c more ih =>
        have := length_escape_pos c
        rw [List.flatMap_cons, List.length_append, List.length_cons]
        omega
  simp only [quote, List.length_cons, List.length_append, List.length_nil]
  omega

/-- Without a quote, a backslash or a control character. -/
def Plain (s : List UInt8) : Prop := ∀ c ∈ s, c ≠ 34 ∧ c ≠ 92 ∧ ¬ c < 32

instance (s : List UInt8) : Decidable (Plain s) :=
  List.decidableBAll (fun c => c ≠ 34 ∧ c ≠ 92 ∧ ¬ c < 32) s

section Plain

variable {s t : List UInt8}

/-- A text that needs no escapes. -/
theorem flatMap_escape_eq_self (plain : Plain s) : s.flatMap escape = s := by
  have each : ∀ c ∈ s, escape c = [c] := by
    intro c mem
    obtain ⟨noQuote, noBackslash, printable⟩ := plain c mem
    rw [escape, if_neg (by simp [noQuote, noBackslash]), if_neg printable]
  rw [List.flatMap_congr each, List.flatMap_singleton']

theorem Plain.quote (plain : Plain s) : quote s = 34 :: (s ++ [34]) := by
  rw [Json.quote, flatMap_escape_eq_self plain]

theorem Plain.noNul (plain : Plain s) : 0 ∉ s :=
  fun mem => (plain 0 mem).2.2 (by decide)

theorem Plain.append (front : Plain s) (back : Plain t) : Plain (s ++ t) :=
  List.forall_mem_append.mpr ⟨front, back⟩

end Plain

/-! ## Lists -/

section Elements

variable {α : Type} {close : UInt8} {item : List UInt8 → Option (α × List UInt8)}
  {text : α → List UInt8}

theorem separated_cons_cons (first second : List UInt8) (texts : List (List UInt8)) :
    separated (first :: second :: texts) = first ++ 44 :: separated (second :: texts) := by
  simp [separated]

/-- The comma in front of every text but the first. -/
theorem flatMap_zipIdx_comma (text : α → List UInt8) (xs : List α) :
    (xs.zipIdx.flatMap fun p => (if p.2 ≠ 0 then [44] else []) ++ text p.1) =
      separated (xs.map text) := by
  have later (ys : List α) (k : Nat) :
      ((ys.zipIdx (k + 1)).flatMap fun p => (if p.2 ≠ 0 then [44] else []) ++ text p.1) =
        (ys.map text).flatMap (44 :: ·) := by
    induction ys generalizing k with
    | nil => rfl
    | cons y rest ih => simpa using ih (k + 1)
  cases xs with
  | nil => rfl
  | cons x rest =>
      rw [List.zipIdx_cons, List.flatMap_cons, later, List.map_cons, separated]
      rfl

/-- `item` reads these texts, in front of a comma and of `close`. -/
def ReadsEach (close : UInt8) (item : List UInt8 → Option (α × List UInt8))
    (text : α → List UInt8) (xs : List α) : Prop :=
  ∀ x ∈ xs, ∀ c, c = 44 ∨ c = close → ∀ rest, item (text x ++ c :: rest) = some (x, c :: rest)

theorem readElements_separated {xs : List α} (some_ : xs ≠ [])
    (reads : ReadsEach close item text xs) (comma : close ≠ 44) {fuel : Nat}
    (enough : xs.length ≤ fuel) (rest : List UInt8) :
    readElements close item fuel (separated (xs.map text) ++ close :: rest) = some (xs, rest) := by
  induction xs generalizing fuel with
  | nil => exact absurd rfl some_
  | cons x more ih =>
      rw [List.length_cons] at enough
      obtain ⟨fuel, rfl⟩ := Nat.exists_eq_succ_of_ne_zero (Nat.ne_zero_of_lt enough)
      have first := reads x List.mem_cons_self
      cases more with
      | nil => simp [readElements, separated, first close (.inr rfl)]
      | cons y more =>
          have tail := ih (List.cons_ne_nil y more)
            (fun z mem => reads z (List.mem_cons_of_mem x mem)) (Nat.le_of_succ_le_succ enough)
          rw [List.map_cons] at tail
          rw [List.map_cons, List.map_cons, separated_cons_cons, List.append_assoc,
            List.cons_append, readElements, first 44 (.inl rfl)]
          simp [comma.symm, tail]

theorem readList_separated {xs : List α} (reads : ReadsEach close item text xs)
    (comma : close ≠ 44) (opens : ∀ x ∈ xs, ∀ rest, (text x ++ rest).head? ≠ some close)
    {fuel : Nat} (enough : xs.length ≤ fuel) (rest : List UInt8) :
    readList close item fuel (separated (xs.map text) ++ close :: rest) = some (xs, rest) := by
  cases xs with
  | nil => simp [readList, separated]
  | cons x more =>
      have notClosed :
          ¬ (separated ((x :: more).map text) ++ close :: rest).head? = some close := by
        rw [List.map_cons, separated, List.append_assoc]
        exact opens x List.mem_cons_self _
      rw [readList, if_neg notClosed]
      exact readElements_separated (List.cons_ne_nil x more) reads comma enough rest

theorem length_le_separated {xs : List α} (some_ : ∀ x ∈ xs, 0 < (text x).length) :
    xs.length ≤ (separated (xs.map text)).length := by
  induction xs with
  | nil => exact Nat.zero_le _
  | cons x more ih =>
      have first := some_ x List.mem_cons_self
      have tail := ih fun y mem => some_ y (List.mem_cons_of_mem x mem)
      cases more with
      | nil =>
          rw [List.map_cons, List.map_nil, separated, List.flatMap_nil, List.append_nil]
          exact first
      | cons y more =>
          rw [List.map_cons] at tail
          rw [List.map_cons, List.map_cons, separated_cons_cons, List.length_append]
          simp only [List.length_cons] at tail ⊢
          omega

theorem length_text_le (text : α → List UInt8) {xs : List α} {x : α} (mem : x ∈ xs) :
    (text x).length ≤ (separated (xs.map text)).length := by
  induction xs with
  | nil => cases mem
  | cons y more ih =>
      cases more with
      | nil =>
          rw [List.mem_singleton.mp mem]
          simp [separated]
      | cons z more =>
          rw [List.map_cons, List.map_cons, separated_cons_cons, List.length_append,
            List.length_cons]
          rcases List.mem_cons.mp mem with here | later
          · rw [here]
            exact Nat.le_add_right _ _
          · have tail := ih later
            rw [List.map_cons] at tail
            omega

end Elements

/-! ## Values -/

theorem render_arr (items : List Json) :
    (arr items).render = 91 :: (separated (items.map render) ++ [93]) := by
  rw [render]

theorem render_obj (members : List (List UInt8 × Json)) :
    (obj members).render = 123 :: (separated (members.map memberText) ++ [125]) := by
  rw [render]
  rfl

/-- The members of an object behind the first one. -/
def more (members : List (List UInt8 × Json)) : List UInt8 :=
  members.flatMap fun m => 44 :: memberText m

@[simp] theorem more_nil : more [] = [] := rfl

theorem more_append (front back : List (List UInt8 × Json)) :
    more (front ++ back) = more front ++ more back :=
  List.flatMap_append

theorem more_cons (m : List UInt8 × Json) (rest : List (List UInt8 × Json)) :
    more (m :: rest) = 44 :: (memberText m ++ more rest) := rfl

theorem separated_members (m : List UInt8 × Json) (rest : List (List UInt8 × Json)) :
    separated ((m :: rest).map memberText) = memberText m ++ more rest := by
  rw [List.map_cons, separated, List.flatMap_map, more]

theorem render_obj_cons (m : List UInt8 × Json) (rest : List (List UInt8 × Json)) :
    (obj (m :: rest)).render = 123 :: (memberText m ++ (more rest ++ [125])) := by
  rw [render_obj, separated_members, List.append_assoc]

theorem memberText_num (key : List UInt8) (n : Int) :
    memberText (key, num n) = quote key ++ 58 :: integer n := by
  rw [memberText, render]

theorem memberText_nat (key : List UInt8) (n : Nat) :
    memberText (key, num n) = quote key ++ 58 :: decimal n :=
  memberText_num key n

theorem memberText_str {s : List UInt8} (key : List UInt8) :
    memberText (key, str s) = quote key ++ 58 :: quote s := by
  rw [memberText, render]

theorem memberText_arr (key : List UInt8) (items : List Json) :
    memberText (key, .arr items) =
      quote key ++ 58 :: 91 :: (separated (items.map render) ++ [93]) := by
  rw [memberText, render_arr]

theorem render_head (v : Json) (rest : List UInt8) :
    ∃ c, (v.render ++ rest).head? = some c ∧ c ≠ 93 ∧ c ≠ 125 := by
  cases v with
  | num n =>
      cases n with
      | ofNat n =>
          obtain ⟨c, head, digit⟩ := decimal_head n rest
          rw [render, integer]
          refine ⟨c, head, ?_, ?_⟩ <;> rintro rfl <;> exact absurd digit (by decide)
      | negSucc n =>
          rw [render, integer]
          exact ⟨45, rfl, by decide, by decide⟩
  | str s =>
      rw [render, quote]
      exact ⟨34, rfl, by decide, by decide⟩
  | arr items =>
      rw [render_arr]
      exact ⟨91, rfl, by decide, by decide⟩
  | obj members =>
      rw [render_obj]
      exact ⟨123, rfl, by decide, by decide⟩
  | bool b =>
      rw [render]
      cases b with
      | false => exact ⟨102, rfl, by decide, by decide⟩
      | true => exact ⟨116, rfl, by decide, by decide⟩
  | null =>
      rw [render]
      exact ⟨110, rfl, by decide, by decide⟩

theorem length_render_pos (v : Json) : 0 < v.render.length := by
  obtain ⟨c, head, -⟩ := render_head v []
  rw [List.append_nil] at head
  exact List.length_pos_iff.mpr fun empty => by simp [empty] at head

theorem readMember_memberText {read : List UInt8 → Option (Json × List UInt8)}
    {m : List UInt8 × Json} {rest : List UInt8}
    (value : read (m.2.render ++ rest) = some (m.2, rest)) {fuel : Nat} (enough : m.1.length < fuel) :
    readMember read fuel (memberText m ++ rest) = some (m, rest) := by
  have key := readString_escape enough (58 :: (m.2.render ++ rest))
  simp [readMember, memberText, quote, key, value]

theorem memberText_bool (key : List UInt8) (b : Bool) :
    memberText (key, bool b) = quote key ++ 58 :: boolText b := by
  rw [memberText, render]

/-- The first byte of a number or a word. -/
structure Bare (c : UInt8) : Prop where
  noString : c ≠ 34
  noArray : c ≠ 91
  noObject : c ≠ 123

theorem integer_head (n : Int) (rest : List UInt8) :
    ∃ c, (integer n ++ rest).head? = some c ∧ Bare c ∧ c ≠ 116 ∧ c ≠ 102 ∧ c ≠ 110 := by
  cases n with
  | ofNat n =>
      obtain ⟨c, head, digit⟩ := decimal_head n rest
      refine ⟨c, head, ⟨?_, ?_, ?_⟩, ?_, ?_, ?_⟩ <;> rintro rfl <;> exact absurd digit (by decide)
  | negSucc n => exact ⟨45, rfl, ⟨by decide, by decide, by decide⟩, by decide, by decide, by decide⟩

theorem readWord_eq_none {bytes : List UInt8} {c : UInt8} (head : bytes.head? = some c)
    (noTrue : c ≠ 116) (noFalse : c ≠ 102) (noNull : c ≠ 110) : readWord bytes = none := by
  obtain ⟨rest, rfl⟩ := List.head?_eq_some_iff.mp head
  simp [readWord, words, boolText, nullText, noTrue.symm, noFalse.symm, noNull.symm]

theorem readWord_boolText (b : Bool) (rest : List UInt8) :
    readWord (boolText b ++ rest) = some (bool b, rest) := by
  cases b <;> simp [readWord, words, boolText]

theorem readWord_nullText (rest : List UInt8) : readWord (nullText ++ rest) = some (null, rest) := by
  simp [readWord, words, boolText, nullText]

/-- What is neither a string nor a list begins otherwise. -/
theorem read_bare {bytes : List UInt8} {c : UInt8} (head : bytes.head? = some c) (bare : Bare c)
    (fuel : Nat) :
    read (fuel + 1) bytes =
      (readWord bytes).or ((readInteger bytes).map fun (n, rest) => (num n, rest)) := by
  rw [read, head]
  simp [bare.noString, bare.noArray, bare.noObject]

theorem read_num (n : Int) (fuel : Nat) {rest : List UInt8} (stops : Stops rest) :
    read (fuel + 1) ((num n).render ++ rest) = some (num n, rest) := by
  obtain ⟨c, head, bare, noTrue, noFalse, noNull⟩ := integer_head n rest
  rw [render, read_bare head bare, readWord_eq_none head noTrue noFalse noNull, Option.none_or,
    readInteger_integer n stops]
  rfl

theorem read_bool (b : Bool) (fuel : Nat) (rest : List UInt8) :
    read (fuel + 1) ((bool b).render ++ rest) = some (bool b, rest) := by
  have head : ∃ c, (boolText b ++ rest).head? = some c ∧ Bare c := by
    cases b with
    | false => exact ⟨102, rfl, by decide, by decide, by decide⟩
    | true => exact ⟨116, rfl, by decide, by decide, by decide⟩
  obtain ⟨c, head, bare⟩ := head
  rw [render, read_bare head bare, readWord_boolText, Option.some_or]

theorem read_null (fuel : Nat) (rest : List UInt8) :
    read (fuel + 1) (null.render ++ rest) = some (null, rest) := by
  have bare : Bare 110 := ⟨by decide, by decide, by decide⟩
  rw [render, read_bare (c := 110) rfl bare, readWord_nullText, Option.some_or]

theorem read_str {s : List UInt8} {fuel : Nat} (enough : s.length < fuel) (rest : List UInt8) :
    read (fuel + 1) ((str s).render ++ rest) = some (str s, rest) := by
  have body := readString_escape enough rest
  rw [render, quote, List.cons_append, List.append_assoc, read, if_pos List.head?_cons,
    List.tail_cons]
  simp [body]

theorem read_arr {items : List Json} {fuel : Nat}
    (reads : ReadsEach 93 (read fuel) render items) (enough : items.length ≤ fuel)
    (rest : List UInt8) :
    read (fuel + 1) ((arr items).render ++ rest) = some (arr items, rest) := by
  have opens : ∀ item ∈ items, ∀ rest, (item.render ++ rest).head? ≠ some 93 := by
    intro item _ rest
    obtain ⟨c, head, noBracket, -⟩ := render_head item rest
    rw [head]
    simpa using noBracket
  have body := readList_separated reads (by decide) opens enough rest
  rw [render_arr, List.cons_append, List.append_assoc, read]
  simp [body]

theorem read_obj {members : List (List UInt8 × Json)} {fuel : Nat}
    (reads : ReadsEach 125 (readMember (read fuel) fuel) memberText members)
    (enough : members.length ≤ fuel) (rest : List UInt8) :
    read (fuel + 1) ((obj members).render ++ rest) = some (obj members, rest) := by
  have opens : ∀ m ∈ members, ∀ rest, (memberText m ++ rest).head? ≠ some 125 := by
    intro m _ rest
    simp [memberText, quote]
  have body := readList_separated reads (by decide) opens enough rest
  rw [render_obj, List.cons_append, List.append_assoc, read]
  simp [body]

theorem length_memberText (m : List UInt8 × Json) :
    m.1.length + m.2.render.length + 3 ≤ (memberText m).length := by
  have key := length_le_quote m.1
  simp only [memberText, List.length_append, List.length_cons]
  omega

/-- What is written is read back; it takes no more fuel than there are bytes. -/
theorem read_render (v : Json) (fuel : Nat) (enough : v.render.length ≤ fuel) (rest : List UInt8)
    (stops : Stops rest) : read fuel (v.render ++ rest) = some (v, rest) := by
  cases fuel with
  | zero => exact absurd enough (Nat.not_le.mpr (length_render_pos v))
  | succ fuel =>
  cases v with
  | num n => exact read_num n fuel stops
  | bool b => exact read_bool b fuel rest
  | null => exact read_null fuel rest
  | str s =>
      have long := length_le_quote s
      rw [render] at enough
      exact read_str (by omega) rest
  | arr items =>
      rw [render_arr, List.length_cons, List.length_append, List.length_singleton] at enough
      have many := length_le_separated fun item (_ : item ∈ items) => length_render_pos item
      refine read_arr (fun item mem c sep rest => ?_) (by omega) rest
      have short := length_text_le render mem
      refine read_render item fuel (by omega) _ (stops_cons ?_ rest)
      rcases sep with rfl | rfl <;> rfl
  | obj members =>
      rw [render_obj, List.length_cons, List.length_append, List.length_singleton] at enough
      have many : members.length ≤ _ :=
        length_le_separated fun m (_ : m ∈ members) => (length_memberText m).trans' (by omega)
      refine read_obj (fun m mem c sep rest => ?_) (by omega) rest
      have short := length_text_le memberText mem
      have parts := length_memberText m
      refine readMember_memberText ?_ (by omega)
      refine read_render m.2 fuel (by omega) _ (stops_cons ?_ rest)
      rcases sep with rfl | rfl <;> rfl
termination_by sizeOf v
decreasing_by
  · subst_vars
    exact sizeOf_item_lt mem
  · subst_vars
    exact sizeOf_member_lt mem

/-- **A text that was written has its value.** -/
theorem parse_render (v : Json) : parse v.render = some v := by
  have whole := read_render v _ (Nat.le_refl _) [] stops_nil
  rw [List.append_nil] at whole
  rw [parse, whole]

end Json

end NimbleProxy.Theory
