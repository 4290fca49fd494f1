/-
# Api.DevicesCut -- where the text of the device table is cut

`build_devices_json` in a buffer that is too small. A row is its text in four parts
(`RowText`): what stands in front of the name, the name, the details behind it, and
the closing brackets. `RowText.printed` is what the buffer has after a row, as a function
of what it had before, and the printer does the same in memory (`yields_build`).

`printed_cases` lists what can become of a row. If it does not fit, the buffer is full, in
front of the row, in its head or in its details -- or the row stands there with a
shorter name and its bracket, and what comes next is cut (`Cut`). `RowFits` is exactly
that the row is printed as a whole: its text has to fit, and nine bytes from the last
character of its name on.
-/
import NimbleProxy.Api.DevicesRendering

namespace NimbleProxy.Api.DevicesJson

open NimbleProxy.Theory BoundedPrint CString
open NimbleProxy.Theory.Json (Plain hex4 escape more more_append more_cons more_nil memberText)
open NimbleProxy.Backend.DeviceTable (DeviceRow)
open NimbleProxy.Backend.Bthome (Reading)

set_option autoImplicit false

/-! ## Rows as texts -/

structure RowText where
  /-- up to the quote in front of the name -/
  head : List UInt8
  name : List UInt8
  /-- from the quote behind the name up to the closing brackets -/
  details : List UInt8
  /-- the details end in an object -/
  nested : Bool

/-- The closing brackets. -/
def RowText.closing (r : RowText) : List UInt8 := if r.nested then [125, 125] else [125]

def RowText.whole (r : RowText) : List UInt8 :=
  r.head ++ (r.name.flatMap escape ++ (34 :: (r.details ++ r.closing)))

/-- `close`. -/
def closed (cap : Nat) (c : UInt8) (out : List UInt8) : List UInt8 :=
  if 1 ≤ cap - out.length then out ++ [c] else out

/-- `printName`. -/
def named (cap : Nat) : List UInt8 → List UInt8 → List UInt8
  | [], out => out
  | c :: rest, out => if 9 ≤ cap - out.length then named cap rest (out ++ escape c) else out

/-- `printRow` from behind the name. -/
def RowText.ended (r : RowText) (cap : Nat) (out : List UInt8) : List UInt8 :=
  let out := emit cap r.details out
  closed cap 125 (if r.nested then closed cap 125 out else out)

/-- `printRow`. -/
def RowText.printed (r : RowText) (cap : Nat) (out : List UInt8) : List UInt8 :=
  r.ended cap (closed cap 34 (named cap r.name (emit cap r.head out)))

/-- The name is printed as a whole if it begins at `start`. -/
def NameFits (cap start : Nat) (name : List UInt8) : Prop :=
  name ≠ [] → start + (name.dropLast.flatMap escape).length + 9 ≤ cap

/-- The row is printed as a whole if it begins at `start`. -/
def RowFits (cap start : Nat) (r : RowText) : Prop :=
  start + r.whole.length ≤ cap ∧ NameFits cap (start + r.head.length) r.name

instance (cap start : Nat) (name : List UInt8) : Decidable (NameFits cap start name) :=
  inferInstanceAs (Decidable (_ → _))

instance (cap start : Nat) (r : RowText) : Decidable (RowFits cap start r) :=
  inferInstanceAs (Decidable (_ ∧ _))

/-! ## What becomes of a row -/

section Rows

variable {cap : Nat} {r : RowText} {out name : List UInt8}

theorem length_closing (r : RowText) : r.closing.length = r.nested.toNat + 1 := by
  unfold RowText.closing
  cases r.nested <;> rfl

theorem length_whole (r : RowText) :
    r.whole.length = r.head.length + (r.name.flatMap escape).length + r.details.length +
      r.closing.length + 1 := by
  simp only [RowText.whole, List.length_append, List.length_cons]
  omega

theorem closed_of_room {c : UInt8} (room : out.length < cap) : closed cap c out = out ++ [c] :=
  if_pos (by omega)

theorem closed_of_full {c : UInt8} (full : out.length = cap) : closed cap c out = out :=
  if_neg (by omega)

theorem length_escape_le (c : UInt8) : (escape c).length ≤ 6 := by
  unfold escape
  split
  · exact Nat.le_of_ble_eq_true rfl
  · split <;> exact Nat.le_of_ble_eq_true rfl

/-- With no room for a character, none is printed. -/
theorem named_of_short (short : cap ≤ out.length + 8) : named cap name out = out := by
  cases name with
  | nil => rfl
  | cons c rest => exact if_neg (by omega)

/-- The name is printed as a whole, or a part of it that leaves little room. -/
theorem named_cases (name : List UInt8) (fits : out.length ≤ cap) :
    (NameFits cap out.length name ∧ named cap name out = out ++ name.flatMap escape ∧
        (name ≠ [] → (out ++ name.flatMap escape).length + 3 ≤ cap)) ∨
      (¬ NameFits cap out.length name ∧ ∃ front back, name = front ++ back ∧ back ≠ [] ∧
        named cap name out = out ++ front.flatMap escape ∧
        cap ≤ (out ++ front.flatMap escape).length + 8 ∧
        (front ≠ [] → (out ++ front.flatMap escape).length + 3 ≤ cap)) := by
  induction name generalizing out with
  | nil => exact .inl ⟨fun some_ => absurd rfl some_, by simp [named], fun some_ => absurd rfl some_⟩
  | cons c rest ih =>
      have short := length_escape_le c
      by_cases room : 9 ≤ cap - out.length
      · have printed : named cap (c :: rest) out = named cap rest (out ++ escape c) := if_pos room
        have step : (out ++ escape c).length = out.length + (escape c).length :=
          List.length_append
        have tail := @ih (out ++ escape c) (by omega)
        rw [List.append_assoc, ← List.flatMap_cons] at tail
        cases rest with
        | nil =>
            refine .inl ⟨fun _ => ?_, by rw [printed]; simp [named], fun _ => ?_⟩
            · simp only [List.dropLast_singleton, List.flatMap_nil, List.length_nil]
              omega
            · simp only [List.flatMap_cons, List.flatMap_nil, List.append_nil]
              omega
        | cons d more =>
            have same : NameFits cap out.length (c :: d :: more) ↔
                NameFits cap (out ++ escape c).length (d :: more) := by
              simp [NameFits, Nat.add_assoc]
            rcases tail with ⟨whole, text, left⟩ | ⟨cut, front, back, split, some_, text, low, high⟩
            · exact .inl ⟨same.mpr whole, printed.trans text, fun _ => left (List.cons_ne_nil d more)⟩
            · rw [List.append_assoc, ← List.flatMap_cons] at text low high
              refine .inr ⟨fun fits => cut (same.mp fits), c :: front, back, by rw [split]; rfl, some_,
                printed.trans text, low, fun _ => ?_⟩
              cases front with
              | nil =>
                  simp only [List.flatMap_cons, List.flatMap_nil, List.append_nil]
                  omega
              | cons e front => exact high (List.cons_ne_nil e front)
      · refine .inr ⟨fun fits => ?_, [], c :: rest, rfl, List.cons_ne_nil c rest, ?_, ?_,
          fun some_ => absurd rfl some_⟩
        · have := fits (List.cons_ne_nil c rest)
          omega
        · rw [named_of_short (by omega)]
          simp
        · simp only [List.flatMap_nil, List.append_nil]
          omega

/-- What a row leaves that is not printed as a whole. -/
inductive Cut (cap : Nat) (r : RowText) (out : List UInt8) : List UInt8 → Prop
  /-- there is no room for the row -/
  | before (full : out.length = cap) : Cut cap r out out
  /-- the buffer ends in the head, or at the quote that would begin the name -/
  | head (room : out.length < cap) (cut : cap ≤ out.length + r.head.length + 1)
      (full : (out ++ (r.head.take (cap - out.length - 1) ++ [34])).length = cap) :
      Cut cap r out (out ++ (r.head.take (cap - out.length - 1) ++ [34]))
  /-- the name is too long, and the row ends behind what there is of it -/
  | name (front back : List UInt8) (split : r.name = front ++ back) (some_ : back ≠ [])
      (bare : r.details = [] ∧ r.nested = false)
      (fits : (out ++ (r.head ++ (front.flatMap escape ++ [34, 125]))).length ≤ cap)
      (near : cap ≤ (out ++ (r.head ++ (front.flatMap escape ++ [34, 125]))).length + 6) :
      Cut cap r out (out ++ (r.head ++ (front.flatMap escape ++ [34, 125])))
  /-- the buffer ends in the details, with a closing bracket -/
  | details (front piece : List UInt8) (named : front <+: r.name) (cut : piece <+: r.details)
      (full : (out ++ (r.head ++ (front.flatMap escape ++ (34 :: (piece ++ [125]))))).length = cap) :
      Cut cap r out (out ++ (r.head ++ (front.flatMap escape ++ (34 :: (piece ++ [125])))))

theorem printed_of_full (full : out.length = cap) : r.printed cap out = out := by
  have none (text : List UInt8) : emit cap text out = out := by simp [emit, full]
  simp only [RowText.printed, RowText.ended, none,
    named_of_short (Nat.le_add_right_of_le full.ge), closed_of_full full, ite_self]

/-- Behind a cut only the next single character is printed. -/
theorem printed_of_cut {text : List UInt8} (head : emit cap r.head out = text)
    (full : text.length + 1 = cap) : r.printed cap out = text ++ [34] := by
  have length : (text ++ [34]).length = cap := by simpa using full
  have none (more : List UInt8) : emit cap more (text ++ [34]) = text ++ [34] := by
    simp [emit, full]
  simp only [RowText.printed, RowText.ended, head,
    named_of_short (show cap ≤ text.length + 8 by omega),
    closed_of_room (show text.length < cap by omega), none, closed_of_full length, ite_self]

/-- The closing brackets behind a cut. -/
theorem closed_of_cut {text : List UInt8} (full : text.length + 1 = cap) (nested : Bool) :
    closed cap 125 (if nested then closed cap 125 text else text) = text ++ [125] := by
  have length : (text ++ [125]).length = cap := by simpa using full
  have first : closed cap 125 text = text ++ [125] := closed_of_room (by omega)
  cases nested with
  | false => exact first
  | true => simp [first, closed_of_full length]

/-- What stands behind the name is printed as a whole, or the buffer ends in it with one closing
bracket. -/
theorem ended_cases (r : RowText) (room : out.length < cap) :
    (out.length + r.details.length + r.closing.length ≤ cap ∧
        r.ended cap out = out ++ (r.details ++ r.closing)) ∨
      (cap < out.length + r.details.length + r.closing.length ∧
        ∃ piece, piece <+: r.details ∧ r.ended cap out = out ++ (piece ++ [125]) ∧
          (out ++ (piece ++ [125])).length = cap) := by
  have closing := length_closing r
  by_cases detailed : out.length + r.details.length < cap
  · have text : (out ++ r.details).length = out.length + r.details.length := List.length_append
    have first : closed cap 125 (out ++ r.details) = (out ++ r.details) ++ [125] :=
      closed_of_room (by omega)
    have length : ((out ++ r.details) ++ [125]).length = out.length + r.details.length + 1 := by
      rw [List.length_append, text, List.length_singleton]
    rw [RowText.ended, emit_fits detailed, RowText.closing]
    cases nested : r.nested with
    | false =>
        rw [nested, Bool.toNat_false] at closing
        refine .inl ⟨by simpa using detailed, ?_⟩
        rw [if_neg (by decide), first]
        simp
    | true =>
        rw [nested, Bool.toNat_true] at closing
        simp only [if_true, first]
        by_cases last : out.length + r.details.length + 1 = cap
        · refine .inr ⟨by simp; omega, r.details, List.prefix_refl _, ?_, by simp; omega⟩
          rw [closed_of_full (by omega), List.append_assoc]
        · refine .inl ⟨by simp; omega, ?_⟩
          rw [closed_of_room (by omega)]
          simp
  · have cut : (emit cap r.details out).length + 1 = cap := emit_cut room (by omega)
    rw [RowText.ended, closed_of_cut cut, emit, List.append_assoc]
    refine .inr ⟨by omega, _, List.take_prefix _ _, rfl, ?_⟩
    rw [← List.append_assoc, List.length_append]
    exact cut

/-- A row of which `front` is what is printed of the name. -/
theorem printed_behind_name {front : List UInt8} (short : out.length + r.head.length + 1 < cap)
    (text : named cap r.name (out ++ r.head) = out ++ r.head ++ front.flatMap escape)
    (left : front ≠ [] → (out ++ r.head ++ front.flatMap escape).length + 3 ≤ cap) :
    let shown (rest : List UInt8) := out ++ (r.head ++ (front.flatMap escape ++ (34 :: rest)))
    ((shown (r.details ++ r.closing)).length ≤ cap ∧
        r.printed cap out = shown (r.details ++ r.closing)) ∨
      (cap < (shown (r.details ++ r.closing)).length ∧ ∃ piece, piece <+: r.details ∧
        r.printed cap out = shown (piece ++ [125]) ∧ (shown (piece ++ [125])).length = cap) := by
  have head : emit cap r.head out = out ++ r.head := emit_fits (by omega)
  have room : (out ++ r.head ++ front.flatMap escape).length + 2 ≤ cap := by
    by_cases empty : front = []
    · simp only [empty, List.flatMap_nil, List.append_nil, List.length_append]
      omega
    · have := left empty
      omega
  have printed : r.printed cap out = r.ended cap (out ++ r.head ++ front.flatMap escape ++ [34]) := by
    rw [RowText.printed, head, text, closed_of_room (by omega)]
  have shape (rest : List UInt8) : out ++ r.head ++ front.flatMap escape ++ [34] ++ rest =
      out ++ (r.head ++ (front.flatMap escape ++ (34 :: rest))) := by simp
  have quoted : (out ++ r.head ++ front.flatMap escape ++ [34]).length =
      (out ++ r.head ++ front.flatMap escape).length + 1 := List.length_append
  have size : (out ++ (r.head ++ (front.flatMap escape ++ (34 :: (r.details ++ r.closing))))).length =
      (out ++ r.head ++ front.flatMap escape ++ [34]).length + r.details.length + r.closing.length := by
    rw [← shape]
    simp only [List.length_append, Nat.add_assoc]
  dsimp only
  rw [size, printed]
  rcases ended_cases r (show (out ++ r.head ++ front.flatMap escape ++ [34]).length < cap by omega)
    with ⟨le, same⟩ | ⟨lt, piece, cut, same, full⟩
  · exact .inl ⟨le, same.trans (shape _)⟩
  · exact .inr ⟨lt, piece, cut, same.trans (shape _), shape _ ▸ full⟩

/-- **What becomes of a row.** -/
theorem printed_cases (long : r.details ≠ [] → 8 ≤ r.details.length)
    (inside : r.nested = true → r.details ≠ []) (fits : out.length ≤ cap) :
    (RowFits cap out.length r ∧ r.printed cap out = out ++ r.whole) ∨
      (¬ RowFits cap out.length r ∧ Cut cap r out (r.printed cap out)) := by
  have total := length_whole r
  have closing := length_closing r
  by_cases room : out.length < cap
  swap
  · have full : out.length = cap := by omega
    rw [printed_of_full full]
    exact .inr ⟨fun whole => by have := whole.1; omega, .before full⟩
  by_cases inHead : cap ≤ out.length + r.head.length + 1
  · have short : (emit cap r.head out).length + 1 = cap := by
      rw [emit, List.length_append, List.length_take]
      omega
    have text := printed_of_cut (r := r) rfl short
    rw [emit, List.append_assoc] at text
    refine .inr ⟨fun whole => by have := whole.1; omega, ?_⟩
    rw [text]
    refine .head room inHead ?_
    rw [← List.append_assoc, List.length_append]
    exact short
  have behind : (out ++ r.head).length = out.length + r.head.length := List.length_append
  rcases named_cases r.name (show (out ++ r.head).length ≤ cap by omega) with
    ⟨nameFits, text, left⟩ | ⟨cut, front, back, split, some_, text, low, high⟩
  · have whole : (out ++ r.whole).length = out.length + r.whole.length := List.length_append
    rcases printed_behind_name (by omega) text left with ⟨le, same⟩ | ⟨lt, piece, cut, same, full⟩
    · exact .inl ⟨⟨whole ▸ le, behind ▸ nameFits⟩, same⟩
    · refine .inr ⟨fun fits => absurd fits.1 (Nat.not_le.mpr (whole ▸ lt)), ?_⟩
      rw [same]
      exact .details r.name piece (List.prefix_refl _) cut full
  · refine .inr ⟨fun whole => cut (behind ▸ whole.2), ?_⟩
    have after := printed_behind_name (by omega) text high
    dsimp only at after
    rcases after with ⟨le, same⟩ | ⟨lt, piece, cut, same, full⟩
    · have length : (out ++ (r.head ++ (front.flatMap escape ++
          (34 :: (r.details ++ r.closing))))).length =
            (out ++ r.head ++ front.flatMap escape).length + r.details.length + r.closing.length + 1 := by
        simp only [List.length_append, List.length_cons]
        omega
      -- there is room for two brackets and not for more
      have bare : r.details = [] := by
        by_contra detailed
        have := long detailed
        omega
      have flat : r.nested = false := by
        by_contra nested
        exact inside (by simpa using nested) bare
      have one : r.closing = [125] := by rw [RowText.closing, flat]; rfl
      rw [bare, one, List.nil_append] at same le length
      rw [same]
      refine .name front back split some_ ⟨bare, flat⟩ le ?_
      rw [length, List.length_nil, List.length_singleton]
      omega
    · rw [same]
      exact .details front piece ⟨back, split.symm⟩ cut full

end Rows

/-! ## The rows of the table -/

/-- What is printed of the BTHome values up to their closing bracket. -/
def bthomeText (cache : List Reading) (row : DeviceRow) : List UInt8 :=
  match cache.find? fun r => r.addr == row.addr with
  | none => []
  | some r => ascii ",\"bthome\":\x7b" ++ fieldsText true (fields r)

/-- The text of row `i`, with this name. -/
def rowParts (nowMs : UInt32) (cache : List Reading) (name : List UInt8) (i : Nat)
    (row : DeviceRow) : RowText where
  head := headText nowMs i row
  name := name
  details := more (detailMembers row) ++ bthomeText cache row
  nested := (cache.find? fun r => r.addr == row.addr).isSome

theorem whole_rowParts (nowMs : UInt32) (cache : List Reading) (name : List UInt8) (i : Nat)
    (row : DeviceRow) : (rowParts nowMs cache name i row).whole = rowText nowMs cache name i row := by
  have nested : bthomeText cache row ++ (rowParts nowMs cache name i row).closing =
      more (bthomeMembers cache row) ++ [125] := by
    rw [bthomeText, RowText.closing, rowParts, bthomeMembers]
    cases found : cache.find? fun r => r.addr == row.addr with
    | none => rfl
    | some r =>
        simp only [Option.isSome_some, if_true, Option.map_some, Option.toList_some, more_cons,
          more_nil, bthome_text, memberText, Json.render_obj, fieldsText]
        simp
  rw [RowText.whole, rowText_eq]
  simp only [rowParts, List.append_assoc] at nested ⊢
  rw [nested]
  simp only [detailMembers, more_append, List.append_assoc, List.cons_append, List.nil_append]

section Printer

variable {buf cap : Nat}

theorem yields_nameChar (c : UInt8) :
    Yields buf cap 9 (nameChar buf cap c) fun out => out ++ escape c := by
  intro w out contains room
  by_cases special : c = 34 ∨ c = 92
  · rw [nameChar, if_pos special, escape, if_pos special]
    exact contains.put (by simp; omega)
  · by_cases control : c < 32
    · have six : (ascii "\\u" ++ hex4 c.toNat).length = 6 := rfl
      have printed := yields_printf (ascii "\\u" ++ hex4 c.toNat) w out contains contains.fits
      rw [emit_fits (by omega)] at printed
      rw [nameChar, if_neg special, if_pos control, escape, if_neg special, if_pos control]
      exact printed
    · rw [nameChar, if_neg special, if_neg control, escape, if_neg special, if_neg control]
      exact contains.put (by simp; omega)

theorem yields_printName (name : List UInt8) :
    Yields buf cap 0 (printName buf cap name) (named cap name) := by
  induction name with
  | nil => exact yields_id
  | cons c rest ih => exact ((yields_nameChar c).comp ih).guard (Nat.le_refl 9)

theorem yields_close (c : UInt8) : Yields buf cap 0 (close buf cap c) (closed cap c) :=
  (yields_put [c]).guard (n := 1) (Nat.le_refl 1)

/-- Where nothing is printed. -/
theorem yields_nothing {f : Writer → Writer} (same : f = id) : Yields buf cap 0 f (emit cap []) :=
  same ▸ yields_id.congr fun _ _ => emit_nil.symm

/-- A member that is printed as a whole. -/
theorem yields_more {text : List UInt8} {m : List UInt8 × Json} (same : text = 44 :: memberText m) :
    Yields buf cap 0 (printf buf cap text) (emit cap (more [m])) := by
  rw [more_cons, more_nil, List.append_nil, ← same]
  exact yields_printf text

theorem yields_appearance (row : DeviceRow) :
    Yields buf cap 0 (printAppearance buf cap row) (emit cap (more
      (if row.appearance ≠ 0 then [(ascii "app", .num row.appearance.toNat)] else []))) := by
  refine ((yields_more (app_text _)).when (row.appearance ≠ 0)).congr fun out _ => ?_
  split
  · rfl
  · exact emit_nil.symm

theorem yields_connectable (row : DeviceRow) :
    Yields buf cap 0 (printConnectable buf cap row) (emit cap (more
      (if row.connectable then [(ascii "conn", .num 1)] else []))) := by
  refine ((yields_more conn_text).when (row.connectable = true)).congr fun out _ => ?_
  split
  · rfl
  · exact emit_nil.symm

theorem yields_tag (row : DeviceRow) :
    Yields buf cap 0 (printTag buf cap row) (emit cap (more
      (row.tag.map fun tag => (ascii "tag", .str (tagBytes tag))).toList)) := by
  cases own : row.tag with
  | none => exact yields_nothing (funext fun w => by rw [printTag, own, id])
  | some tag =>
      have same : printTag buf cap row =
          printf buf cap (ascii ",\"tag\":\"" ++ (tagBytes tag ++ ascii "\"")) :=
        funext fun w => by rw [printTag, own]
      rw [same]
      exact yields_more (tag_text tag)

theorem yields_fields {fields : List (Bool × String × Int)}
    (keys : ∀ field ∈ fields, Plain (ascii field.2.1)) (first : Bool) :
    Yields buf cap 0 (printFields buf cap first fields) (emit cap (fieldsText first fields)) := by
  induction fields generalizing first with
  | nil => cases first <;> exact yields_nothing rfl
  | cons field rest ih =>
      obtain ⟨present, k, v⟩ := field
      rw [List.forall_mem_cons] at keys
      cases present with
      | false => exact ih keys.2 first
      | true =>
          rw [fieldsText_cons, ← field_text first keys.1 v]
          exact (yields_printf _).emits (ih keys.2 false)

/-- `printBthome` and what closes the row. -/
theorem yields_bthome (cache : List Reading) (row : DeviceRow) :
    Yields buf cap 0 (fun w => close buf cap 125 (printBthome buf cap cache row w)) fun out =>
      closed cap 125 (if (cache.find? fun r => r.addr == row.addr).isSome then
        closed cap 125 (emit cap (bthomeText cache row) out) else emit cap (bthomeText cache row) out) := by
  refine Yields.comp (g := fun out => if (cache.find? fun r => r.addr == row.addr).isSome then
        closed cap 125 (emit cap (bthomeText cache row) out) else emit cap (bthomeText cache row) out)
    ?_ (yields_close 125)
  rw [bthomeText]
  cases found : cache.find? fun r => r.addr == row.addr with
  | none => exact yields_nothing (funext fun w => by rw [printBthome, found, id])
  | some r =>
      have same : printBthome buf cap cache row = fun w =>
          close buf cap 125 (printFields buf cap true (fields r)
            (printf buf cap (ascii ",\"bthome\":\x7b") w)) :=
        funext fun w => by rw [printBthome, found]
      rw [same]
      exact ((yields_printf _).emits (yields_fields (plain_keys r) true)).comp (yields_close 125)

theorem yields_row (nowMs : UInt32) (cache : List Reading) (behind : Nat → List UInt8) (i : Nat)
    (row : DeviceRow) :
    Yields buf cap 0 (printRow buf cap nowMs cache behind i row)
      ((rowParts nowMs cache (nameBytes (behind i) row) i row).printed cap) := by
  have head : Yields buf cap 0 (printf buf cap (headText nowMs i row)) _ := yields_printf _
  have front := (head.comp (yields_printName (nameBytes (behind i) row))).comp (yields_close 34)
  have appearance : Yields buf cap 0 (printAppearance buf cap row) _ := yields_appearance row
  have members := (appearance.emits (yields_connectable row)).emits (yields_tag row)
  refine front.comp ((members.comp (yields_bthome cache row)).congr fun out fits => ?_)
  rw [emit_emit fits, RowText.ended]
  simp only [rowParts, detailMembers, more_append, List.append_assoc]

end Printer

end NimbleProxy.Api.DevicesJson
