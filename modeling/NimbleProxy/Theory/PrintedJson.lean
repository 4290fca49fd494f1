/-
# Theory.PrintedJson -- what may be wrong with a JSON text that was printed by hand

A text that is printed with a format is the one that `render` writes but for three things.
It may be cut: then it is none (`parse_unfinished`). A string may stand in it as it is, and
then it is the string that is read only if it needs no escapes (`plain_of_parse`). And a
number may have leading zeros: then nothing is read (`parse_unreadable`).

The text up to a member is `opened`; what is read behind it is read by `readElements`
(`parse_opened`), whatever that is.
-/
import NimbleProxy.Theory.BoundedPrint
import NimbleProxy.Theory.Brackets

namespace NimbleProxy.Theory.Json

set_option autoImplicit false

/-! ## How long a number is -/

section Length

variable {n k : Nat}

theorem length_decimal_le (some_ : 0 < k) (small : n < 10 ^ k) : (decimal n).length ≤ k := by
  unfold decimal
  split
  · exact some_
  · rw [List.length_reverse, List.length_map]
    exact (Nat.digits_length_le_iff (by decide) n).mpr small

theorem lt_length_decimal (large : 10 ^ k ≤ n) : k < (decimal n).length := by
  have positive : n ≠ 0 := (Nat.lt_of_lt_of_le (Nat.pow_pos (by decide)) large).ne'
  rw [decimal, if_neg positive, List.length_reverse, List.length_map]
  exact (Nat.lt_digits_length_iff (by decide) n).mpr large

theorem length_integer_le {i : Int} (some_ : 0 < k) (low : -(10 ^ k : Nat) < i)
    (high : i < (10 ^ k : Nat)) : (integer i).length ≤ k + 1 := by
  cases i with
  | ofNat n => exact Nat.le_succ_of_le (length_decimal_le some_ (Int.ofNat_lt.mp high))
  | negSucc n =>
      rw [integer, List.length_cons]
      exact Nat.succ_le_succ (length_decimal_le some_ (by omega))

theorem length_boolText_le (b : Bool) : (boolText b).length ≤ 5 := by
  cases b <;> decide

end Length

/-! ## Bytes -/

/-- A digit of `%X`. -/
def upperDigit (v : Nat) : UInt8 := UInt8.ofNat (if v < 10 then 48 + v else 55 + v)

/-- `%02x` of a byte with the digits `hexDigit`, `%02X` with `upperDigit`. -/
def hexByte (digit : Nat → UInt8) (n : Nat) : List UInt8 := [digit (n / 16), digit (n % 16)]

section HexByte

variable {digit : Nat → UInt8} {n : Nat}

/-- What holds of sixteen digits holds of the two. -/
theorem forall_mem_hexByte {good : UInt8 → Prop} (byte : n < 256) (digits : ∀ v < 16, good (digit v)) :
    ∀ c ∈ hexByte digit n, good c := by
  intro c mem
  rcases List.mem_pair.mp mem with rfl | rfl
  · exact digits _ (by omega)
  · exact digits _ (by omega)

theorem plain_hexByte (byte : n < 256) : Plain (hexByte hexDigit n) :=
  forall_mem_hexByte byte (by decide)

theorem plain_hexByte_upper (byte : n < 256) : Plain (hexByte upperDigit n) :=
  forall_mem_hexByte byte (by decide)

/-- And of the six parts of an address holds of the address. -/
theorem forall_mem_colons {good : UInt8 → Prop} {a b c d e f : List UInt8} (colon : good 58)
    (first : ∀ x ∈ a, good x) (second : ∀ x ∈ b, good x) (third : ∀ x ∈ c, good x)
    (fourth : ∀ x ∈ d, good x) (fifth : ∀ x ∈ e, good x) (sixth : ∀ x ∈ f, good x) :
    ∀ x ∈ a ++ 58 :: (b ++ 58 :: (c ++ 58 :: (d ++ 58 :: (e ++ 58 :: f)))), good x := by
  simp only [List.forall_mem_append, List.forall_mem_cons]
  exact ⟨first, colon, second, colon, third, colon, fourth, colon, fifth, colon, sixth⟩

end HexByte

theorem plain_decimal (n : Nat) : Plain (decimal n) := by
  intro c mem
  have digit := decimal_isDigit n c mem
  rw [isDigit, decide_eq_true_eq] at digit
  refine ⟨?_, ?_, fun low => ?_⟩
  · rintro rfl
    exact absurd digit.1 (by decide)
  · rintro rfl
    exact absurd digit.2 (by decide)
  · exact absurd (UInt8.lt_of_le_of_lt digit.1 low) (by decide)

/-! ## Texts that are cut -/

section Unfinished

variable {p : Place} {front back : List UInt8}

/-- A piece leads out of some levels and then into some, wherever it begins. -/
theorem scan_depth (p : Place) (bytes : List UInt8) :
    ∃ q out into, ∀ depth, scan (p, depth) bytes = (q, depth - out + into) := by
  induction bytes generalizing p with
  | nil => exact ⟨p, 0, 0, fun _ => rfl⟩
  | cons c rest ih =>
      have byte : ∃ q out into, ∀ depth, scanByte (p, depth) c = (q, depth - out + into) := by
        cases p with
        | outside =>
            simp only [scanByte]
            split
            · exact ⟨.string, 0, 0, fun _ => rfl⟩
            split
            · exact ⟨.outside, 0, 1, fun _ => rfl⟩
            split
            · exact ⟨.outside, 1, 0, fun _ => rfl⟩
            · exact ⟨.outside, 0, 0, fun _ => rfl⟩
        | string =>
            simp only [scanByte]
            split
            · exact ⟨.escaped, 0, 0, fun _ => rfl⟩
            split
            · exact ⟨.outside, 0, 0, fun _ => rfl⟩
            · exact ⟨.string, 0, 0, fun _ => rfl⟩
        | escaped => exact ⟨.string, 0, 0, fun _ => rfl⟩
      obtain ⟨q, out, into, first⟩ := byte
      obtain ⟨q', out', into', more⟩ := ih q
      refine ⟨q', out + (out' - into), into - out' + into', fun depth => ?_⟩
      rw [scan_cons, first, more, Prod.mk.injEq]
      exact ⟨rfl, by omega⟩

/-- A front of a balanced text leads no lower. -/
theorem Balanced.le_depth (whole : Balanced (front ++ back)) (depth : Nat) :
    depth ≤ (scan (.outside, depth) front).2 := by
  obtain ⟨q, out, into, first⟩ := scan_depth .outside front
  obtain ⟨q', out', into', rest⟩ := scan_depth q back
  have level (d : Nat) : d - out + into - out' + into' = d := by
    have := whole d
    rw [scan_append, first, rest, Prod.mk.injEq] at this
    exact this.2
  have low := level 0
  have high := level (out + out')
  rw [first]
  show depth ≤ depth - out + into
  omega

theorem balanced_memberText (m : List UInt8 × Json) : Balanced (memberText m) := by
  have key := balanced_render (str m.1)
  rw [render] at key
  exact key.append (Leads.cons (fun _ => rfl) (balanced_render m.2))

theorem balanced_more (members : List (List UInt8 × Json)) : Balanced (more members) := by
  induction members with
  | nil => exact Leads.refl _
  | cons m rest ih =>
      rw [more_cons]
      exact Leads.cons (fun _ => rfl) ((balanced_memberText m).append ih)

theorem balanced_separated (members : List (List UInt8 × Json)) :
    Balanced (separated (members.map memberText)) := by
  cases members with
  | nil => exact Leads.refl _
  | cons m rest =>
      rw [separated_members]
      exact (balanced_memberText m).append (balanced_more rest)

/-- **A cut object** is not read. -/
theorem parse_unfinished {members : List (List UInt8 × Json)}
    (split : (obj members).render = front ++ back) (cut : back ≠ []) : parse front = none := by
  cases front with
  | nil => rfl
  | cons c front =>
      rw [render_obj, List.cons_append, List.cons.injEq] at split
      obtain ⟨rfl, split⟩ := split
      have inner : front ++ back.dropLast = separated (members.map memberText) := by
        have last := congrArg List.dropLast split
        rw [List.dropLast_concat, List.dropLast_append_of_ne_nil cut] at last
        exact last.symm
      have deep := (inner ▸ balanced_separated members : Balanced _).le_depth 1
      refine parse_eq_none fun closed => ?_
      have start : scan (.outside, 0) (123 :: front) = scan (.outside, 1) front := rfl
      rw [start] at closed
      rw [closed] at deep
      exact absurd deep (by decide)

/-- What is taken of a buffer with the text of an object. -/
theorem parse_taken (members : List (List UInt8 × Json)) (cap : Nat) :
    parse (BoundedPrint.taken cap (obj members).render) = some (obj members) ↔
      (obj members).render.length < cap := by
  by_cases fits : (obj members).render.length < cap
  · rw [BoundedPrint.taken_fits fits, parse_render]
    exact iff_of_true rfl fits
  · rw [BoundedPrint.taken_eq, parse_unfinished (List.take_append_drop (cap - 1) _).symm]
    · exact iff_of_false nofun fits
    · have long := length_render_pos (obj members)
      rw [ne_eq, List.drop_eq_nil_iff]
      omega

end Unfinished

/-! ## Behind some members -/

/-- An object up to a member. -/
def opened (before : List (List UInt8 × Json)) : List UInt8 :=
  123 :: before.flatMap fun m => memberText m ++ [44]

section Opened

variable {before members : List (List UInt8 × Json)} {key tail raw : List UInt8} {v : Json}

theorem opened_append (before members : List (List UInt8 × Json)) :
    opened (before ++ members) = opened before ++ members.flatMap fun m => memberText m ++ [44] := by
  rw [opened, List.flatMap_append]
  rfl

/-- An object up to a member, that member, and the others. -/
theorem render_opened (before after : List (List UInt8 × Json)) (m : List UInt8 × Json) :
    (obj (before ++ m :: after)).render = opened before ++ (memberText m ++ (more after ++ [125])) := by
  have front : separated ((before ++ m :: after).map memberText) =
      (before.flatMap fun m => memberText m ++ [44]) ++ separated ((m :: after).map memberText) := by
    induction before with
    | nil => rfl
    | cons x rest ih =>
        obtain ⟨y, tail, split⟩ : ∃ y tail, rest ++ m :: after = y :: tail := by
          cases rest <;> exact ⟨_, _, rfl⟩
        rw [split] at ih
        rw [List.cons_append, split, List.map_cons, List.map_cons, separated_cons_cons,
          ← List.map_cons, ih, List.flatMap_cons]
        simp
  rw [render_obj, front, separated_members, opened]
  simp

theorem readElements_front {α : Type} {item : List UInt8 → Option (α × List UInt8)}
    {text : α → List UInt8} {close : UInt8} (comma : close ≠ 44) {xs : List α}
    (reads : ∀ x ∈ xs, ∀ rest, item (text x ++ 44 :: rest) = some (x, 44 :: rest)) (fuel : Nat)
    (tail : List UInt8) :
    readElements close item (xs.length + fuel) (xs.flatMap (fun x => text x ++ [44]) ++ tail) =
      (readElements close item fuel tail).map fun read => (xs ++ read.1, read.2) := by
  induction xs with
  | nil => simp
  | cons x more ih =>
      have first := reads x List.mem_cons_self (more.flatMap (fun x => text x ++ [44]) ++ tail)
      have later := ih fun y mem => reads y (List.mem_cons_of_mem x mem)
      have split : (x :: more).flatMap (fun x => text x ++ [44]) ++ tail =
          text x ++ 44 :: (more.flatMap (fun x => text x ++ [44]) ++ tail) := by simp
      rw [List.length_cons, Nat.add_right_comm, split, readElements, first]
      simp only [Option.bind_eq_bind, Option.bind_some, List.head?_cons, List.tail_cons, later]
      cases readElements close item fuel tail <;> simp [comma.symm]

theorem length_opened (before : List (List UInt8 × Json)) :
    before.length + 1 ≤ (opened before).length ∧
      ∀ m ∈ before, (memberText m).length < (opened before).length := by
  unfold opened
  induction before with
  | nil => exact ⟨Nat.le_refl _, nofun⟩
  | cons m rest ih =>
      obtain ⟨many, each⟩ := ih
      simp only [List.length_cons, List.flatMap_cons, List.length_append, List.length_nil] at many each ⊢
      refine ⟨by omega, List.forall_mem_cons.mpr ⟨by omega, fun m' mem => ?_⟩⟩
      have := each m' mem
      omega

/-- **What is read behind some members** is what the reader of members reads there. -/
theorem parse_opened (quote : tail.head? = some 34) (value : parse (opened before ++ tail) = some v) :
    ∃ fuel rest members, tail.length ≤ fuel + 1 ∧
      readElements 125 (readMember (read fuel) fuel) rest tail = some (members, []) ∧
      v = obj (before ++ members) := by
  obtain ⟨many, each⟩ := length_opened before
  obtain ⟨fuel, long⟩ : ∃ fuel, (opened before ++ tail).length = fuel + 1 :=
    Nat.exists_eq_succ_of_ne_zero (by rw [List.length_append]; omega)
  have room : (opened before).length + tail.length = fuel + 1 := by rw [← long, List.length_append]
  unfold parse at value
  split at value
  case h_2 => cases value
  rename_i w whole
  cases value
  rw [long, opened, List.cons_append, read, if_neg (by simp), if_neg (by simp),
    if_pos (by simp), List.tail_cons] at whole
  obtain ⟨⟨members, rest⟩, list, same⟩ := Option.map_eq_some_iff.mp whole
  cases same
  have inside : (before.flatMap (fun m => memberText m ++ [44]) ++ tail).head? ≠ some 125 := by
    cases before with
    | nil => simp [quote]
    | cons m rest => simp [memberText, Json.quote]
  rw [readList, if_neg inside] at list
  have some_ : 0 < tail.length := List.length_pos_iff.mpr (by rintro rfl; cases quote)
  obtain ⟨left, enough⟩ : ∃ left, fuel = before.length + left := Nat.exists_eq_add_of_le (by omega)
  have reads : ∀ m ∈ before, ∀ rest,
      readMember (read fuel) fuel (memberText m ++ 44 :: rest) = some (m, 44 :: rest) := by
    intro m mem rest
    have short := each m mem
    have parts := length_memberText m
    exact readMember_memberText (read_render m.2 fuel (by omega) _ (stops_cons rfl rest)) (by omega)
  have behind := readElements_front (show (125 : UInt8) ≠ 44 by decide) reads left tail
  rw [← enough, list] at behind
  obtain ⟨⟨members', rest⟩, found, same⟩ := Option.map_eq_some_iff.mp behind.symm
  cases same
  exact ⟨fuel, left, members', by omega, found, rfl⟩

theorem readMember_quote {read : List UInt8 → Option (Json × List UInt8)} {fuel : Nat}
    (enough : key.length < fuel) :
    readMember read fuel (quote key ++ 58 :: tail) =
      (read tail).map fun value => ((key, value.1), value.2) := by
  have name := readString_escape enough (58 :: tail)
  cases value : read tail <;> simp [readMember, quote, name, value]

/-- The first of these members. -/
theorem parse_opened_quote (value : parse (opened before ++ (quote key ++ 58 :: tail)) = some v) :
    ∃ fuel rest members, key.length < fuel ∧
      readElements 125 (readMember (read fuel) fuel) rest (quote key ++ 58 :: tail) =
        some (members, []) ∧ v = obj (before ++ members) := by
  obtain ⟨fuel, rest, members, long, found, same⟩ := parse_opened (by rfl) value
  have short := length_le_quote key
  rw [List.length_append] at long
  exact ⟨fuel, rest, members, by omega, found, same⟩

/-- A member whose value is not read. -/
theorem parse_unreadable (unreadable : ∀ fuel, read fuel tail = none) :
    parse (opened before ++ (quote key ++ 58 :: tail)) = none := by
  cases value : parse (opened before ++ (quote key ++ 58 :: tail)) with
  | none => rfl
  | some v =>
      obtain ⟨fuel, rest, members, enough, found, -⟩ := parse_opened_quote value
      have member : readMember (read fuel) fuel (quote key ++ 58 :: tail) =
          (read fuel tail).map fun value => ((key, value.1), value.2) := readMember_quote enough
      rw [unreadable] at member
      cases rest with
      | zero => cases found
      | succ rest => simp [readElements, member] at found

/-- A number with a leading zero. -/
theorem read_leading_zero {d : UInt8} (digit : isDigit d = true) (fuel : Nat) (rest : List UInt8) :
    read fuel (48 :: d :: rest) = none := by
  cases fuel with
  | zero => rfl
  | succ fuel =>
      have zero : isDigit 48 = true := rfl
      have number : readInteger (48 :: d :: rest) = none := by
        simp [readInteger, readNatural, zero, digit]
      rw [read_bare (c := 48) rfl ⟨by decide, by decide, by decide⟩,
        readWord_eq_none (c := 48) rfl (by decide) (by decide) (by decide), number]
      rfl

/-! ## Strings that are printed as they are -/

theorem length_utf8 {n : Nat} {bytes : List UInt8} (code : utf8 n = some bytes) : bytes.length ≤ 3 := by
  unfold utf8 at code
  repeat' split at code
  all_goals
    cases code
    try exact Nat.le_of_ble_eq_true rfl

/-- What is read of a string that was printed as it is, in front of a quote, a comma and another
quote: the string, if it is plain; or fewer bytes; or a string that ends at the second quote. -/
def ReadRaw (raw s : List UInt8) : Prop :=
  s = raw ∧ Plain raw ∨ s.length < raw.length ∨ s.getLast? = some 44 ∧ raw.getLast? = some 92

theorem ReadRaw.step {used out s : List UInt8} (rest : ReadRaw raw s)
    (char : out = used ∧ Plain used ∨ out.length < used.length) : ReadRaw (used ++ raw) (out ++ s) := by
  have short : out.length ≤ used.length := by
    rcases char with ⟨rfl, -⟩ | fewer
    · exact Nat.le_refl _
    · exact fewer.le
  rcases rest with ⟨rfl, plain⟩ | fewer | ⟨comma, backslash⟩
  · rcases char with ⟨rfl, plain'⟩ | fewer
    · exact .inl ⟨rfl, plain'.append plain⟩
    · exact .inr (.inl (by rw [List.length_append, List.length_append]; omega))
  · exact .inr (.inl (by rw [List.length_append, List.length_append]; omega))
  · exact .inr (.inr ⟨by rw [List.getLast?_append, comma]; rfl,
      by rw [List.getLast?_append, backslash]; rfl⟩)

/-- A `\u` and its digits, which are in front of the quote. -/
theorem readUnicode_raw {more out rest : List UInt8}
    (read : readUnicode (raw ++ 34 :: 44 :: 34 :: more) = some (out, rest)) :
    ∃ digits raw', raw = digits ++ raw' ∧ rest = raw' ++ 34 :: 44 :: 34 :: more ∧
      digits.length = 4 ∧ out.length ≤ 3 := by
  have quote : hexValue 34 = none := rfl
  match raw with
  | [] => cases more <;> simp [readUnicode, quote] at read
  | [_] | [_, _] | [_, _, _] => simp [readUnicode, quote] at read
  | a :: b :: c :: d :: raw' =>
      simp only [List.cons_append, readUnicode, Option.bind_eq_bind, Option.bind_eq_some_iff] at read
      obtain ⟨_, -, _, -, _, -, _, -, _, code, same⟩ := read
      cases same
      exact ⟨[a, b, c, d], raw', rfl, rfl, rfl, length_utf8 code⟩

/-- One character, if the string does not end with a backslash here. -/
theorem readChar_raw {c : UInt8} {more out rest : List UInt8} (noQuote : c ≠ 34)
    (inside : c = 92 → raw ≠ [])
    (read : readChar (c :: (raw ++ 34 :: 44 :: 34 :: more)) = some (out, rest)) :
    ∃ used raw', c :: raw = used ++ raw' ∧ rest = raw' ++ 34 :: 44 :: 34 :: more ∧
      (out = used ∧ Plain used ∨ out.length < used.length) := by
  obtain ⟨e, tail, split⟩ : ∃ e tail, raw ++ 34 :: 44 :: 34 :: more = e :: tail := by
    cases raw <;> exact ⟨_, _, rfl⟩
  rw [split, readChar] at read
  split at read
  · rename_i backslash
    obtain ⟨e', raw', rfl⟩ := List.exists_cons_of_ne_nil (inside backslash)
    cases split
    split at read
    · obtain ⟨digits, raw'', rfl, rfl, four, three⟩ := readUnicode_raw read
      refine ⟨c :: e :: digits, raw'', rfl, rfl, .inr ?_⟩
      simp only [List.length_cons]
      omega
    · obtain ⟨byte, -, same⟩ := Option.map_eq_some_iff.mp read
      cases same
      exact ⟨[c, e], raw', rfl, rfl, .inr (Nat.lt_succ_self 1)⟩
  · split at read
    · cases read
    · rename_i noBackslash printable
      cases read
      exact ⟨[c], raw, rfl, split.symm,
        .inl ⟨rfl, List.forall_mem_singleton.mpr ⟨noQuote, noBackslash, printable⟩⟩⟩

theorem readString_raw {fuel : Nat} {s rest more : List UInt8}
    (read : readString fuel (raw ++ 34 :: 44 :: 34 :: more) = some (s, rest)) : ReadRaw raw s := by
  induction fuel generalizing raw s with
  | zero => cases read
  | succ fuel ih =>
      rw [readString] at read
      cases raw with
      | nil =>
          cases read
          exact .inl ⟨rfl, fun c mem => absurd mem List.not_mem_nil⟩
      | cons c raw =>
          split at read
          · cases read
            exact .inr (.inl (Nat.succ_pos _))
          · rename_i noQuote
            simp only [Option.bind_eq_bind, Option.bind_eq_some_iff] at read
            obtain ⟨⟨out, rest'⟩, char, ⟨s', rest''⟩, tail, same⟩ := read
            cases same
            by_cases end_ : c = 92 ∧ raw = []
            · -- the backslash takes the quote, and the string ends at the next one
              obtain ⟨rfl, rfl⟩ := end_
              cases char
              rcases fuel with _ | _ | fuel
              · cases tail
              · cases tail
              · cases tail
                exact .inr (.inr ⟨rfl, rfl⟩)
            · obtain ⟨used, raw', split, rfl, kind⟩ :=
                readChar_raw (by simpa using noQuote) (fun backslash empty => end_ ⟨backslash, empty⟩) char
              rw [split]
              exact (ih tail).step kind

theorem plain_of_read {fuel : Nat} {rest more : List UInt8}
    (value : read fuel (34 :: (raw ++ 34 :: 44 :: 34 :: more)) = some (str raw, rest)) :
    Plain raw := by
  cases fuel with
  | zero => cases value
  | succ fuel =>
      rw [read, if_pos List.head?_cons, List.tail_cons] at value
      obtain ⟨⟨s, rest'⟩, string, same⟩ := Option.map_eq_some_iff.mp value
      cases same
      rcases readString_raw string with ⟨-, plain⟩ | fewer | ⟨comma, backslash⟩
      · exact plain
      · exact absurd fewer (Nat.lt_irrefl _)
      · rw [comma] at backslash
        cases backslash

theorem readElements_first {α : Type} {item : List UInt8 → Option (α × List UInt8)} {close : UInt8}
    {fuel : Nat} {bytes rest : List UInt8} {x : α} {xs : List α}
    (list : readElements close item fuel bytes = some (x :: xs, rest)) :
    ∃ rest', item bytes = some (x, rest') := by
  cases fuel with
  | zero => cases list
  | succ fuel =>
      simp only [readElements, Option.bind_eq_bind, Option.bind_eq_some_iff] at list
      obtain ⟨⟨y, rest'⟩, first, list⟩ := list
      refine ⟨rest', first.trans ?_⟩
      split at list
      · cases list
        rfl
      · split at list
        · cases list
        · obtain ⟨⟨ys, rest''⟩, -, same⟩ := Option.bind_eq_some_iff.mp list
          cases same
          rfl

/-- **A string that was printed as it is** is read only if it needs no escapes. -/
theorem plain_of_parse {after : List (List UInt8 × Json)} {more : List UInt8}
    (value : parse (opened before ++ (quote key ++ 58 :: 34 :: (raw ++ 34 :: 44 :: 34 :: more))) =
      some (obj (before ++ (key, str raw) :: after))) : Plain raw := by
  obtain ⟨fuel, rest, members, enough, found, same⟩ := parse_opened_quote value
  rw [obj.injEq, List.append_cancel_left_eq] at same
  rw [← same] at found
  obtain ⟨rest', member⟩ := readElements_first found
  rw [readMember_quote enough] at member
  obtain ⟨⟨w, rest''⟩, read, same⟩ := Option.map_eq_some_iff.mp member
  cases same
  exact plain_of_read read

end Opened

end NimbleProxy.Theory.Json
